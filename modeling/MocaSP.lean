import MocaSP.Signer.Disposition
import MocaSP.Signer.RecordEpoch
import MocaSP.Quota.MigrationLedger
import MocaSP.Quota.Transfer
import MocaSP.Gater.Download
import MocaSP.Gater.Nonce
import MocaSP.Gater.Expiry
import MocaSP.Gater.Recover
import MocaSP.Metadata.Verdict
import MocaSP.Signer.Probe
import MocaSP.Signer.Handover
import MocaSP.Uploader.Description
import MocaSP.Uploader.Registration
import MocaSP.Manager.Completion
import MocaSP.Executor.Recovered
import MocaSP.Receiver.Attest
import MocaSP.Executor.Replicated
import MocaSP.Manager.Verified
import MocaSP.Manager.UploadProgress
import MocaSP.Manager.Backoff
import MocaSP.Manager.PickUp
import MocaSP.Manager.StaleVersions
import MocaSP.Manager.SourceGC
import MocaSP.Manager.Confirm
import MocaSP.Executor.Delivered
import MocaSP.Manager.Approval
import MocaSP.Manager.Exit
import MocaSP.Blocksyncer.Mirror
import MocaSP.Blocksyncer.Sizes
import MocaSP.Blocksyncer.Tree
import MocaSP.Blocksyncer.Prefetch
import MocaSP.Manager.GCRestart
import MocaSP.Signer.Settlement
import MocaSP.Manager.Dispatch
import MocaSP.Manager.Pipeline
import MocaSP.Manager.Reports
import MocaSP.Piece.HashTable
import MocaSP.Vgmgr.Pick
import MocaSP.Rcmgr.Memory
