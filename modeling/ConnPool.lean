import ConnPool.Session.Pools
import ConnPool.Session.Records
import ConnPool.Proofs.Capacity
import ConnPool.Proofs.Ended
import ConnPool.Proofs.Stretches
import ConnPool.Proofs.Waiting
import ConnPool.Proofs.Later
import ConnPool.Proofs.Openings
import ConnPool.Proofs.Reclaiming
import ConnPool.Proofs.Draining
import ConnPool.Proofs.Interruptions
import ConnPool.Proofs.Accounts
import ConnPool.Proofs.HandingOut
import ConnPool.Proofs.Trials
import ConnPool.Proofs.Attempts
import ConnPool.Proofs.AtOnce
import ConnPool.Proofs.Replaying
import ConnPool.Proofs.Passwords
import ConnPool.Proofs.Named
import ConnPool.Proofs.AnyOrder
import ConnPool.Proofs.LeftOpen
import ConnPool.Proofs.Expressing
import ConnPool.Proofs.PropertyLists
import ConnPool.Proofs.PropertyOrder
import ConnPool.Proofs.LazyTransactions
import ConnPool.Proofs.ExactValues
import ConnPool.Proofs.Documents
import ConnPool.Proofs.ColumnNames
import ConnPool.Proofs.Spellings
import ConnPool.Proofs.Room
import ConnPool.Proofs.Timeouts
