import CallWeave.Proofs.Codec.Layout
import CallWeave.Proofs.Codec.Words
import CallWeave.Workflow.Encoder

/-!
# Reading the arguments of an entry point

The arguments of the three entry points are arrays of bytes, of pairs and of triples, the last with a value
behind them. `EncoderKind.readArguments` reads any of them. What is read of encoded calls is what the entry
point carries of each of them (`Encoder.readArguments_encodeArguments`): in the order of the calls, the
payload, and with it the clipboard and the target where the entry point has a place for them.
-/

namespace CallWeave

open Abi

/-- The tuple that the head at a place leads to. -/
def Abi.tupleAt {α : Type} (read : Bytes → Except Abi.Error α) (zone : Bytes) (place : Nat) :
    Except Abi.Error α :=
  match zoneAt zone place with
  | .error e => .error e
  | .ok tuple => read tuple

namespace EncoderKind

/-- Reads a payload and a clipboard. -/
def readPair (tuple : Bytes) : Except Abi.Error PreparedCall := do
  let payload ← bytesAt tuple 0
  let clipboard ← bytesAt tuple 32
  return ⟨none, payload, some clipboard⟩

/-- Reads a target, a payload and a clipboard. -/
def readTriple (tuple : Bytes) : Except Abi.Error PreparedCall := do
  let target ← wordAt tuple 0
  let payload ← bytesAt tuple 32
  let clipboard ← bytesAt tuple 64
  return ⟨some (.ofNat (fromBigEndian target)), payload, some clipboard⟩

/-- Reads one call in the form of an entry point. -/
def callAt : EncoderKind → Bytes → Nat → Except Abi.Error PreparedCall
  | .farm => fun zone place => (bytesAt zone place).map .plain
  | .advancedFarm => tupleAt readPair
  | .advancedPipe => tupleAt readTriple

/-- Reads the value behind the calls, where the entry point has one. -/
def valueAt : EncoderKind → Bytes → Except Abi.Error (Option Uint256)
  | .farm, _ | .advancedFarm, _ => .ok none
  | .advancedPipe, arguments => (wordAt arguments 32).map fun word => some (BitVec.ofNat 256 (fromBigEndian word))

/-- Reads the arguments of an entry point: the calls, and the value if it takes one. -/
def readArguments (kind : EncoderKind) (arguments : Bytes) :
    Except Abi.Error (List PreparedCall × Option Uint256) := do
  let calls ← arrayAt kind.callAt arguments 0
  let value ← kind.valueAt arguments
  return (calls, value)

/-- What an entry point carries of a call. Where it has a place for a clipboard, a call without one gets
the clipboard that does nothing. -/
def carried : EncoderKind → PreparedCall → PreparedCall
  | .farm, call => ⟨none, call.payload, none⟩
  | .advancedFarm, call => ⟨none, call.payload, some (call.clipboard.getD Clipboard.empty.toBytes)⟩
  | .advancedPipe, call => ⟨call.target, call.payload, some (call.clipboard.getD Clipboard.empty.toBytes)⟩

/-- What an entry point carries of a value. -/
def carriedValue : EncoderKind → Uint256 → Option Uint256
  | .farm, _ | .advancedFarm, _ => none
  | .advancedPipe, value => some value

@[simp] theorem payload_carried (kind : EncoderKind) (call : PreparedCall) :
    (kind.carried call).payload = call.payload := by
  cases kind <;> rfl

/-- The part of a call among the arguments, if the call has what the entry point asks for. -/
def partOf : EncoderKind → PreparedCall → Option Abi.Part
  | .farm, call => some (Encoder.farmPart call)
  | .advancedFarm, call => some (Encoder.advancedFarmPart call)
  | .advancedPipe, call => call.target.map fun target =>
    tuplePart [addressPart target, bytesPart call.payload, bytesPart (Encoder.clipboardOf call)]

/-- The part of the value. -/
def valueParts (kind : EncoderKind) (value : Uint256) : List Abi.Part :=
  (kind.carriedValue value).toList.map uintPart

end EncoderKind

/-! ## Tuples -/

namespace Abi

/-- A tuple is read when its members are, whatever stands behind them. -/
theorem reads_tuplePart {α : Type} {members : List Part} {read : Bytes → Except Abi.Error α} {value : α}
    (each : ∀ behind, (params members).length < 2 ^ 64 → read (params members ++ behind) = .ok value) :
    (tuplePart members).Reads (tupleAt read) value := by
  rintro _ behind fits before after rfl
  obtain ⟨place, length⟩ := fits_of_length_params before after fits
  have leads := zoneAt_params before after behind place
  rw [tupleAt, tuplePart, leads]
  exact each _ length

/-- A tail in a list that memory holds is small. -/
theorem tail_lt_of_mem {parts : List Part} {tail : Bytes} (isPart : Part.moved tail ∈ parts)
    (fits : (params parts).length < 2 ^ 64) : tail.length < 2 ^ 64 := by
  obtain ⟨before, after, rfl⟩ := List.append_of_mem isPart
  exact (fits_of_length_params before after fits).2

/-- The bytes of a part are no longer than its tail. -/
theorem bytes_lt_of_mem {parts : List Part} {bytes : Bytes} (isPart : bytesPart bytes ∈ parts)
    (fits : (params parts).length < 2 ^ 64) : bytes.length < 2 ^ 64 := by
  have length := tail_lt_of_mem isPart fits
  simp only [List.length_append] at length
  omega

end Abi

/-! ## Calls -/

namespace EncoderKind

variable {kind : EncoderKind} {call : PreparedCall} {part : Abi.Part}

/-- Every call stands in the tails. -/
theorem headSize_of_partOf (made : kind.partOf call = some part) : part.headSize = 32 := by
  cases kind with
  | farm => exact Option.some.inj made ▸ rfl
  | advancedFarm => exact Option.some.inj made ▸ rfl
  | advancedPipe =>
    obtain ⟨target, -, rfl⟩ := Option.map_eq_some_iff.mp made
    rfl

/-- What is read of a part is what the entry point carries of the call. -/
theorem reads_of_partOf (made : kind.partOf call = some part) : part.Reads kind.callAt (kind.carried call) := by
  cases kind with
  | farm =>
    obtain rfl := Option.some.inj made
    rintro parts behind fits before after parted
    have payload := reads_bytesPart call.payload parts behind fits before after parted
    simp only [callAt, payload, Except.map, carried, PreparedCall.plain]
  | advancedFarm =>
    obtain rfl := Option.some.inj made
    refine reads_tuplePart fun behind fits => ?_
    have payload := reads_bytesPart call.payload _ behind fits [] [_] rfl
    have clipboard := reads_bytesPart (Encoder.clipboardOf call) _ behind fits [_] [] rfl
    have second : headsSize [bytesPart call.payload] = 32 := rfl
    rw [second] at clipboard
    simp only [readPair, show bytesAt _ 0 = _ from payload, clipboard, bind, Except.bind, pure, Except.pure, carried]
    rfl
  | advancedPipe =>
    obtain ⟨target, isTarget, rfl⟩ := Option.map_eq_some_iff.mp made
    refine reads_tuplePart fun behind fits => ?_
    have isWord : (bigEndian 32 target.number.toNat).length = 32 := length_bigEndian ..
    have word := readsIn_fixed isWord [addressPart target, bytesPart call.payload, bytesPart (Encoder.clipboardOf call)]
      behind [] _ rfl
    have payload := reads_bytesPart call.payload _ behind fits [_] [_] rfl
    have clipboard := reads_bytesPart (Encoder.clipboardOf call) _ behind fits [_, _] [] rfl
    have second : headsSize [addressPart target] = 32 := by
      rw [headsSize, headsSize, addressPart, Part.headSize, isWord]
    have third : headsSize [addressPart target, bytesPart call.payload] = 64 := by
      rw [headsSize, headsSize, headsSize, addressPart, Part.headSize, isWord]
      rfl
    -- an address is the number in the low bytes of its word
    have address : Address.ofNat (fromBigEndian (bigEndian 32 target.number.toNat)) = target := by
      have isSmall : target.number.toNat < 256 ^ 32 := Nat.lt_of_lt_of_le target.number.isLt (by decide)
      rw [fromBigEndian_bigEndian_of_lt isSmall, Address.ofNat, BitVec.ofNat_toNat, BitVec.setWidth_eq]
    rw [second] at payload
    rw [third] at clipboard
    rw [readTriple, show wordAt _ 0 = _ from word, payload, clipboard]
    simp only [bind, Except.bind, pure, Except.pure, carried, address, isTarget]
    rfl

/-- A call in a list that memory holds has a payload that memory holds. -/
theorem payload_lt_of_partOf {parts : List Abi.Part} (made : kind.partOf call = some part) (isPart : part ∈ parts)
    (fits : (params parts).length < 2 ^ 64) : call.payload.length < 2 ^ 64 := by
  cases kind with
  | farm =>
    obtain rfl := Option.some.inj made
    exact bytes_lt_of_mem isPart fits
  | advancedFarm =>
    obtain rfl := Option.some.inj made
    exact bytes_lt_of_mem (by simp) (tail_lt_of_mem isPart fits)
  | advancedPipe =>
    obtain ⟨target, -, rfl⟩ := Option.map_eq_some_iff.mp made
    exact bytes_lt_of_mem (by simp) (tail_lt_of_mem isPart fits)

end EncoderKind

/-! ## Arguments -/

/-- In lists that go along with each other, every member goes along with one. -/
theorem exists_of_forall₂_of_mem {α β : Type} {R : α → β → Prop} {as : List α} {bs : List β}
    (all : List.Forall₂ R as bs) {a : α} (isIn : a ∈ as) : ∃ b ∈ bs, R a b := by
  induction all with
  | nil => cases isIn
  | @cons first other _ _ related _ ih =>
    rcases List.mem_cons.mp isIn with rfl | later
    · exact ⟨other, List.mem_cons_self, related⟩
    · obtain ⟨b, isThere, related⟩ := ih later
      exact ⟨b, List.mem_cons_of_mem _ isThere, related⟩

namespace Encoder

variable {encoder : Encoder} {calls : List NamedCall} {value : Uint256} {arguments : Bytes}

/-- The parts of a pipe's calls are there exactly if each call has its part. -/
theorem advancedPipeParts_ok {parts : List Abi.Part} (made : advancedPipeParts calls = .ok parts) :
    List.Forall₂ (fun named part => EncoderKind.advancedPipe.partOf named.call = some part) calls parts := by
  induction calls generalizing parts with
  | nil =>
    obtain rfl := Except.ok.inj made
    exact .nil
  | cons named rest ih =>
    simp only [advancedPipeParts, advancedPipePart] at made
    cases target : named.call.target with
    | none => simp [target] at made
    | some address =>
      cases behind : advancedPipeParts rest with
      | error e => simp [target, behind] at made
      | ok others =>
        simp only [target, behind, Except.ok.injEq] at made
        subst made
        exact .cons (by simp [EncoderKind.partOf, target]) (ih behind)

/-- Encoded arguments are the array of the calls and the value behind it. -/
theorem encodeArguments_ok (encoded : encoder.encodeArguments calls value = .ok arguments) :
    ∃ parts, List.Forall₂ (fun named part => encoder.kind.partOf named.call = some part) calls parts ∧
      arguments = params (arrayPart parts :: encoder.kind.valueParts value) := by
  simp only [encodeArguments] at encoded
  split at encoded
  case h_1 kind =>
    refine ⟨_, ?_, (Except.ok.inj encoded).symm.trans (by rw [kind]; rfl)⟩
    rw [kind, List.forall₂_map_right_iff]
    exact List.forall₂_same.mpr fun _ _ => rfl
  case h_2 kind =>
    refine ⟨_, ?_, (Except.ok.inj encoded).symm.trans (by rw [kind]; rfl)⟩
    rw [kind, List.forall₂_map_right_iff]
    exact List.forall₂_same.mpr fun _ _ => rfl
  case h_3 kind =>
    rw [advancedPipeArguments] at encoded
    split at encoded
    · cases encoded
    case h_2 parts made =>
      exact ⟨parts, kind ▸ advancedPipeParts_ok made, (Except.ok.inj encoded).symm.trans (by rw [kind]; rfl)⟩

/-- Encoded arguments read back as what the entry point carries of the calls and of the value. -/
theorem readArguments_encodeArguments (encoded : encoder.encodeArguments calls value = .ok arguments)
    (held : arguments.length < 2 ^ 64) :
    encoder.kind.readArguments arguments =
      .ok (calls.map fun named => encoder.kind.carried named.call, encoder.kind.carriedValue value) := by
  obtain ⟨parts, each, made⟩ := encodeArguments_ok encoded
  rw [made] at held ⊢
  have words : ∀ part ∈ parts, part.headSize = 32 := by
    intro part isPart
    obtain ⟨named, -, made⟩ := exists_of_forall₂_of_mem each.flip isPart
    exact EncoderKind.headSize_of_partOf made
  have reads : List.Forall₂ (Part.Reads encoder.kind.callAt) parts
      (calls.map fun named => encoder.kind.carried named.call) := by
    rw [List.forall₂_map_right_iff]
    exact each.flip.imp fun _ _ made => EncoderKind.reads_of_partOf made
  have array := reads_arrayPart words reads (arrayPart parts :: encoder.kind.valueParts value) [] held [] _ rfl
  rw [List.append_nil] at array
  have value : encoder.kind.valueAt (params (arrayPart parts :: encoder.kind.valueParts value)) =
      .ok (encoder.kind.carriedValue value) := by
    cases kind : encoder.kind with
    | farm => rfl
    | advancedFarm => rfl
    | advancedPipe =>
      have word := readsIn_fixed (length_wordOf value) [arrayPart parts, uintPart value] [] [_] [] rfl
      rw [List.append_nil] at word
      have second : headsSize [arrayPart parts] = 32 := rfl
      rw [second] at word
      have word : wordAt (params (arrayPart parts :: EncoderKind.advancedPipe.valueParts value)) 32 =
        .ok (wordOf value) := word
      simp only [EncoderKind.valueAt, word, Except.map, fromBigEndian_wordOf, BitVec.ofNat_toNat, BitVec.setWidth_eq,
        EncoderKind.carriedValue]
  simp only [EncoderKind.readArguments, show arrayAt _ _ 0 = _ from array, value, bind, Except.bind, pure, Except.pure]

/-- The payload of each call is held as well. -/
theorem payload_lt_of_encodeArguments (encoded : encoder.encodeArguments calls value = .ok arguments)
    (held : arguments.length < 2 ^ 64) : ∀ named ∈ calls, named.call.payload.length < 2 ^ 64 := by
  obtain ⟨parts, each, made⟩ := encodeArguments_ok encoded
  rw [made] at held
  have isArray : Part.moved (numberWord parts.length ++ params parts) ∈
      arrayPart parts :: encoder.kind.valueParts value := List.mem_cons_self
  have array := tail_lt_of_mem isArray held
  rw [List.length_append] at array
  intro named isIn
  obtain ⟨part, isPart, made⟩ := exists_of_forall₂_of_mem each isIn
  exact EncoderKind.payload_lt_of_partOf made isPart (by omega)

end Encoder

end CallWeave
