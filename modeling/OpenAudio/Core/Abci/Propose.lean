import OpenAudio.Core.Abci.Validate

/-!
# Building a proposal

A proposer takes the transactions of its mempool that pass validation, and cuts the list to the size
CometBFT allows.
-/

namespace OpenAudio.Core

open Prog

/-- `protowire.SizeVarint` of the protobuf module, which is not part of the repository -/
def sizeVarint (n : Nat) : Nat :=
  let bits := if n = 0 then 0 else n.log2 + 1
  (9 * bits + 64) / 64

def proposalTxWireCost (txLen : Nat) : Int := 1 + (sizeVarint txLen + txLen : Nat)

/-- `capProposalTxs`, with `remaining` bytes left of the budget: a transaction over the whole budget
is dropped, and the first one over what remains ends the list. -/
def capFrom (maxTxBytes : Int) : Int → List Bytes → List Bytes
  | _, [] => []
  | remaining, tx :: txs =>
    let cost := proposalTxWireCost tx.length
    if maxTxBytes < cost then capFrom maxTxBytes remaining txs
    else if remaining < cost then []
    else tx :: capFrom maxTxBytes (remaining - cost) txs

def capProposalTxs (maxTxBytes : Int) (txs : List Bytes) : List Bytes :=
  if maxTxBytes ≤ 0 then txs else capFrom maxTxBytes maxTxBytes txs

namespace Server

variable (s : Server)

/-- The wire form of a mempool transaction; an absent message marshals to nothing. -/
def marshalMempoolTx (tx : MempoolTransaction) : Bytes :=
  match tx.txv2, tx.tx with
  | some v2, _ => s.ext.marshal (.v2Transaction v2)
  | none, some stx => s.ext.marshal (.signedTransaction stx)
  | none, none => []

def validateProposerPolicy (tx : Option SignedTransaction) : Except GoError Unit :=
  match tx with
  | some stx =>
    match stx.transaction with
    | some (.plays plays) => s.isValidPlayTransaction stx plays
    | _ => .ok ()
  | none => .ok ()

/-- The transactions of a batch that pass, in order; the overlay carries the effects of each to the
ones after it. -/
def selectTxs (rules : Rules) (req : PrepareProposalRequest) :
    List MempoolTransaction → Overlay → List Bytes
  | [], _ => []
  | tx :: txs, o =>
    let txBytes := s.marshalMempoolTx tx
    match s.validateProposerPolicy tx.tx with
    | .error _ => selectTxs rules req txs o
    | .ok () =>
      let r := s.validateBlockTx rules req.time req.height req.misbehavior txBytes o
      match r.1 with
      | .ok true => txBytes :: selectTxs rules req txs r.2
      | _ => selectTxs rules req txs r.2

end Server

end OpenAudio.Core
