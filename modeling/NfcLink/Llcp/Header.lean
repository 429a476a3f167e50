import NfcLink.Error

/-!
# PDU headers

Two octets hold a six-bit destination, a four-bit type and a six-bit source.
Information and receive-ready PDUs add one octet with N(S) and N(R). What
follows the header is the information field.
-/
namespace NfcLink

structure PduHeader where
  dsap : Sap
  type : PduType
  ssap : Sap
  /-- N(S) and N(R). -/
  numbers : Option (Seq × Seq) := none
  deriving DecidableEq, Repr

namespace PduHeader

/-- A peer with nothing to say sends this instead, with both addresses zero. -/
def symm : PduHeader := ⟨0, .symm, 0, none⟩

def withNumbers (header : PduHeader) (ns nr : Seq) : PduHeader :=
  { header with numbers := some (ns, nr) }

def ns (header : PduHeader) : Option Seq := header.numbers.map Prod.fst

def nr (header : PduHeader) : Option Seq := header.numbers.map Prod.snd

def encodedLength (header : PduHeader) : Nat :=
  if header.numbers.isSome then 3 else 2

def encode (header : PduHeader) : Bytes :=
  let type := header.type.bits.val
  UInt8.ofNat (header.dsap.val * 4 + type / 4) ::
    UInt8.ofNat (type % 4 * 64 + header.ssap.val) ::
    match header.numbers with
    | some (ns, nr) => [UInt8.ofNat (ns.val * 16 + nr.val)]
    | none => []

theorem encode_length (header : PduHeader) : header.encode.length = header.encodedLength := by
  unfold encode encodedLength
  cases header.numbers <;> rfl

/-- The type of a received PDU, without looking at the rest of its header. -/
def typeOf : Bytes → Except Error PduType
  | first :: second :: _ =>
    .ok (.ofBits (Fin.ofNat 16 (first.toNat % 4 * 4 + second.toNat / 64)))
  | short => .error (.link (.shortRead short.length))

/-- The header at the start of a PDU, and the information field behind it. -/
def split (pdu : Bytes) : Except Error (PduHeader × Bytes) := do
  let type ← typeOf pdu
  match pdu with
  | first :: second :: rest =>
    let header : PduHeader :=
      ⟨Fin.ofNat 64 (first.toNat / 4), type, Fin.ofNat 64 second.toNat, none⟩
    if type.sequenced then
      match rest with
      | numbers :: field =>
        return (header.withNumbers (Fin.ofNat 16 (numbers.toNat / 16)) (.ofByte numbers), field)
      | [] => throw (.link (.shortRead pdu.length))
    else return (header, rest)
  | short => throw (.link (.shortRead short.length))

def parse (pdu : Bytes) : Except Error PduHeader :=
  (split pdu).map Prod.fst

end PduHeader

end NfcLink
