import SmartWallet.Client.Error

/-!
# Connections

What a client asks a cluster for. A connection is a value: the answers that the cluster gives, each
of which may fail with a reason.
-/

namespace SmartWallet

/-- An account as a cluster returns it. -/
structure StoredAccount where
  owner : Key
  data : List UInt8
deriving DecidableEq

structure Connection where
  account : Key → Except String (Option StoredAccount)
  latestBlockhash : Except String Key
  slot : Except String UInt64

namespace Connection

/-- A cluster's answer as a client reports it. -/
def answer {α : Type} (r : Except String α) : Except ClientError α := r.mapError .connection

/-- The data of an account that belongs to the given program. -/
def programData (c : Connection) (program key : Key) : Except ClientError (List UInt8) := do
  let found ← answer (c.account key)
  let account ← orError (.accountNotFound key) found
  ensure (account.owner = program) (ClientError.foreignAccount key account.owner)
  pure account.data

end Connection

end SmartWallet
