import SyncEngine.Envelope.Types

namespace StellarConduit

namespace Crates

def ed25519ToStrkey (crates : Crates) (key : Bytes32) : String :=
  crates.strkey key

def muxedSourceStrkey (crates : Crates) : Xdr.MuxedAccount → String
  | .ed25519 key => crates.ed25519ToStrkey key
  | .muxedEd25519 _ key => crates.ed25519ToStrkey key

def extractSourceAccountAndSequence (crates : Crates) (txXdr : String) :
    Except SyncEngineError (String × Int64) :=
  match crates.fromXdrBase64 txXdr with
  | .error reason => .error (.xdrParse reason)
  | .ok (.tx env) =>
      .ok (crates.muxedSourceStrkey env.tx.sourceAccount, env.tx.seqNum)
  | .ok (.txFeeBump env) =>
      -- the sequence is consumed on the account of the inner transaction
      .ok (crates.muxedSourceStrkey env.innerTx.tx.sourceAccount,
        env.innerTx.tx.seqNum)
  | .ok (.txV0 env) =>
      .ok (crates.ed25519ToStrkey env.tx.sourceAccountEd25519,
        env.tx.seqNum)

end Crates

end StellarConduit
