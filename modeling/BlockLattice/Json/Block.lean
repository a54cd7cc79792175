import BlockLattice.Blueprint
import BlockLattice.Json.Reader
import BlockLattice.Json.Types
import BlockLattice.Json.Writer

namespace BlockLattice

def Content.toJson : Content → Json
  | .opening account balance time =>
    .record [("account", account.toJson), ("balance", balance.toJson), ("timestamp", time.toJson)]
  | .send balance destination previous time =>
    .record [("balance", balance.toJson), ("destination", destination.toJson),
      ("previous", previous.toJson), ("timestamp", time.toJson)]
  | .receive balance previous source time =>
    .record [("balance", balance.toJson), ("previous", previous.toJson),
      ("source", source.toJson), ("timestamp", time.toJson)]
  | .change balance changes previous time =>
    .record [("balance", balance.toJson), ("changes", .array (changes.map VoteChange.toJson)),
      ("previous", previous.toJson), ("timestamp", time.toJson)]
  | .delegate balance previous share time =>
    .record [("balance", balance.toJson), ("previous", previous.toJson),
      ("share", share.toJson), ("timestamp", time.toJson)]

def Content.ofJson? (kind : BlockKind) (v : Json) : Option Content :=
  match kind with
  | .opening =>
    match Json.slots? ["account", "balance", "timestamp"] v with
    | some [account, balance, time] => do
      return .opening (← account.required AccountId.ofJson?) (← balance.required Amount.ofJson?)
        (← time.required Timestamp.ofJson?)
    | _ => none
  | .send =>
    match Json.slots? ["balance", "destination", "previous", "timestamp"] v with
    | some [balance, destination, previous, time] => do
      return .send (← balance.required Amount.ofJson?) (← destination.required AccountId.ofJson?)
        (← previous.required BlockHash.ofJson?) (← time.required Timestamp.ofJson?)
    | _ => none
  | .receive =>
    match Json.slots? ["balance", "previous", "source", "timestamp"] v with
    | some [balance, previous, source, time] => do
      return .receive (← balance.required Amount.ofJson?) (← previous.required BlockHash.ofJson?)
        (← source.required BlockHash.ofJson?) (← time.required Timestamp.ofJson?)
    | _ => none
  | .change =>
    match Json.slots? ["balance", "changes", "previous", "timestamp"] v with
    | some [balance, changes, previous, time] => do
      return .change (← balance.required Amount.ofJson?) (← changes.required (Json.list? VoteChange.ofJson?))
        (← previous.required BlockHash.ofJson?) (← time.required Timestamp.ofJson?)
    | _ => none
  | .delegate =>
    match Json.slots? ["balance", "previous", "share", "timestamp"] v with
    | some [balance, previous, share, time] => do
      return .delegate (← balance.required Amount.ofJson?) (← previous.required BlockHash.ofJson?)
        (← share.required Share.ofJson?) (← time.required Timestamp.ofJson?)
    | _ => none

def Block.toJson (b : Block) : Json :=
  .tagged b.kind.name (.record [("hashables", b.content.toJson),
    ("signatures", .record [("owner", .option Signature.toJson b.owner),
      ("witness", .option Signature.toJson b.witness)])])

def Block.signaturesOfJson? (v : Json) : Option (Option Signature × Option Signature) :=
  match Json.slots? ["owner", "witness"] v with
  | some [owner, witness] => do
    return (← owner.optional Signature.ofJson?, ← witness.optional Signature.ofJson?)
  | _ => none

def Block.ofJson? (v : Json) : Option Block :=
  match Json.variant? v with
  | some (tag, some body) =>
    match BlockKind.ofName? tag, Json.slots? ["hashables", "signatures"] body with
    | some kind, some [hashables, signatures] => do
      let content ← hashables.required (Content.ofJson? kind)
      let (owner, witness) ← signatures.required Block.signaturesOfJson?
      return ⟨content, owner, witness⟩
    | _, _ => none
  | _ => none

def Block.jsonText (b : Block) : String := b.toJson.compactText
def Block.ofJsonText? (s : String) : Option Block := (Json.ofText? s).bind Block.ofJson?

def Payload.toJson : Payload → Json
  | .opening => .string "Open"
  | .send destination => .tagged "Send" (.record [("destination", destination.toJson)])
  | .receive source => .tagged "Receive" (.record [("source", .option BlockHash.toJson source)])
  | .change changes => .tagged "Change" (.record [("changes", .array (changes.map VoteChange.toJson))])
  | .delegate share => .tagged "Delegate" (.record [("share", share.toJson)])

def Payload.field? (name : String) (v : Json) : Option Json.Slot :=
  match Json.slots? [name] v with
  | some [slot] => some slot
  | _ => none

def Payload.ofJson? (v : Json) : Option Payload :=
  match Json.variant? v with
  | some ("Open", content) => if Json.isEmptyContent content then some .opening else none
  | some ("Send", some content) => do
    return .send (← (← Payload.field? "destination" content).required AccountId.ofJson?)
  | some ("Receive", some content) => do
    return .receive (← (← Payload.field? "source" content).optional BlockHash.ofJson?)
  | some ("Change", some content) => do
    return .change (← (← Payload.field? "changes" content).required (Json.list? VoteChange.ofJson?))
  | some ("Delegate", some content) => do
    return .delegate (← (← Payload.field? "share" content).required Share.ofJson?)
  | _ => none

def Blueprint.toJson (bp : Blueprint) : Json :=
  .record [("previous", .option BlockHash.toJson bp.previous), ("balance", bp.balance.toJson),
    ("amount", bp.amount.toJson), ("payload", bp.payload.toJson)]

def Blueprint.ofJson? (v : Json) : Option Blueprint :=
  match Json.slots? ["previous", "balance", "amount", "payload"] v with
  | some [previous, balance, amount, payload] => do
    return ⟨← previous.optional BlockHash.ofJson?, ← balance.required Amount.ofJson?,
      ← amount.required Amount.ofJson?, ← payload.required Payload.ofJson?⟩
  | _ => none

def Request.toJson (r : Request) : Json :=
  .record [("account", r.account.toJson), ("blueprint", r.blueprint.toJson)]

def Request.ofJson? (v : Json) : Option Request :=
  match Json.slots? ["account", "blueprint"] v with
  | some [account, blueprint] => do
    return ⟨← account.required AccountId.ofJson?, ← blueprint.required Blueprint.ofJson?⟩
  | _ => none

end BlockLattice
