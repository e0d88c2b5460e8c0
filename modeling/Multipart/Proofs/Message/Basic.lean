import Multipart.Part
import Multipart.Proofs.Delimiter.Occurrence
import Multipart.Proofs.Header.Fields
import Multipart.Settings.Basic

/-! # Messages that are written

A message as a sender writes it, and the parts that a reader is to find in it. Bodies may hold
anything but the delimiter. -/

namespace Multipart

/-- A part that is to be written, with the padding after the delimiter before it. -/
structure Entity where
  padding : List UInt8
  headers : List Header
  data : List UInt8

/-- What is to be written: a text before the first delimiter, the parts, and a text after the last
delimiter. -/
structure Message where
  preamble : List UInt8
  entities : List Entity
  epilogue : List UInt8

/-- The content id of what is to be written: the value of the first header with that name, in
whatever case. -/
def Entity.contentId? (entity : Entity) : Option String :=
  (entity.headers.find? fun header =>
    Text.lowerAscii header.name.toList = "content-id".toList).map Header.value

structure Entity.WellFormed (delimiter : Delimiter) (entity : Entity) : Prop where
  padding : ∀ byte ∈ entity.padding, Octet.isBlank byte
  headers : ∀ header ∈ entity.headers, header.Writable
  data : ∀ offset, ¬delimiter.OccursAt entity.data offset

instance (delimiter : Delimiter) (entity : Entity) : Decidable (entity.WellFormed delimiter) :=
  decidable_of_iff (entity.padding.all Octet.isBlank ∧
      entity.headers.all (fun header => header.Writable) ∧
      ∀ offset, ¬delimiter.OccursAt entity.data offset) <| by
    simp only [List.all_eq_true, decide_eq_true_eq]
    exact ⟨fun ⟨hpadding, hheaders, hdata⟩ => ⟨hpadding, hheaders, hdata⟩,
      fun h => ⟨h.padding, h.headers, h.data⟩⟩

/-- A part keeps to the limits, and a word can count its bytes, also with a line end after them. -/
structure Entity.Fits (settings : Settings) (entity : Entity) : Prop where
  headers_le : (Header.block entity.headers).length ≤ settings.maxHeaderSize
  data_le : entity.data.length ≤ settings.maxPartSize
  headers_le_word : (Header.block entity.headers).length ≤ maxWord
  data_le_word : entity.data.length + 2 ≤ maxWord

instance (settings : Settings) (entity : Entity) : Decidable (entity.Fits settings) :=
  decidable_of_iff ((Header.block entity.headers).length ≤ settings.maxHeaderSize ∧
      entity.data.length ≤ settings.maxPartSize ∧
      (Header.block entity.headers).length ≤ maxWord ∧ entity.data.length + 2 ≤ maxWord)
    ⟨fun ⟨hheaders, hdata, hheaders', hdata'⟩ => ⟨hheaders, hdata, hheaders', hdata'⟩,
      fun h => ⟨h.headers_le, h.data_le, h.headers_le_word, h.data_le_word⟩⟩

namespace Message

/-- There is a part, each is well formed, and the preamble is empty or ends a line. -/
structure WellFormed (delimiter : Delimiter) (message : Message) : Prop where
  entities_ne_nil : message.entities ≠ []
  entities : ∀ entity ∈ message.entities, entity.WellFormed delimiter
  preamble : ∀ offset, ¬delimiter.OccursAt message.preamble offset
  preamble_end : message.preamble = [] ∨ message.preamble.getLast? = some Octet.lf

/-- A part from its headers on, and what comes after it. -/
def content (delimiter : Delimiter) (entity : Entity) (rest : List UInt8) : List UInt8 :=
  Header.block entity.headers ++ Octet.cr :: Octet.lf ::
    (entity.data ++ Octet.cr :: Octet.lf :: (delimiter.bytes ++ rest))

/-- What comes after a delimiter that some parts follow. -/
def following (delimiter : Delimiter) (epilogue : List UInt8) : List Entity → List UInt8
  | [] => Octet.dash :: Octet.dash :: epilogue
  | entity :: rest => entity.padding ++ Octet.cr :: Octet.lf ::
      content delimiter entity (following delimiter epilogue rest)

def bytes (message : Message) (delimiter : Delimiter) : List UInt8 :=
  message.preamble ++
    (delimiter.bytes ++ following delimiter message.epilogue message.entities)

/-- The parts that follow a delimiter, after which the offset is `offset`. -/
def partsFrom (delimiter : Delimiter) (offset : Nat) : List Entity → List Part
  | [] => []
  | entity :: rest =>
      let start := offset + (entity.padding.length + 2) +
        ((Header.block entity.headers).length + 2)
      ⟨entity.headers.map Header.lowered, entity.data, start⟩ ::
        partsFrom delimiter (start + (entity.data.length + 2 + delimiter.length)) rest

/-- The parts of a message, where they start in its bytes. -/
def parts (message : Message) (delimiter : Delimiter) : List Part :=
  partsFrom delimiter (message.preamble.length + delimiter.length) message.entities

example : (Message.mk [] [⟨[], [⟨"Content-Id", "a"⟩], [120]⟩] []).bytes (.ofBytes [66]) =
    Text.Utf8.encode "--B\r\nContent-Id: a\r\n\r\nx\r\n--B--".toList := by decide +kernel

theorem length_partsFrom (delimiter : Delimiter) (offset : Nat) (entities : List Entity) :
    (partsFrom delimiter offset entities).length = entities.length := by
  induction entities generalizing offset with
  | nil => rfl
  | cons entity entities ih => simp [partsFrom, ih]

/-- A part has the content id that is written in its headers. -/
theorem contentId?_lowered (entity : Entity) (start : Nat) :
    Part.contentId? ⟨entity.headers.map Header.lowered, entity.data, start⟩ =
      entity.contentId? := by
  have hname : (fun header : Header => decide (header.name = "content-id")) ∘ Header.lowered =
      fun header => decide (Text.lowerAscii header.name.toList = "content-id".toList) := by
    funext header
    simp only [Function.comp, Header.lowered, ← String.toList_inj, String.toList_ofList]
  rw [Part.contentId?, Part.firstHeader?, List.find?_map, hname, Option.map_map]
  rfl

theorem map_contentId?_partsFrom (delimiter : Delimiter) (offset : Nat) (entities : List Entity) :
    (partsFrom delimiter offset entities).map Part.contentId? =
      entities.map Entity.contentId? := by
  induction entities generalizing offset with
  | nil => rfl
  | cons entity entities ih =>
      rw [partsFrom, List.map_cons, contentId?_lowered, ih, List.map_cons]

theorem map_contentId?_parts (message : Message) (delimiter : Delimiter) :
    (message.parts delimiter).map Part.contentId? = message.entities.map Entity.contentId? :=
  map_contentId?_partsFrom delimiter _ message.entities

theorem WellFormed.parts_eq_cons {delimiter : Delimiter} {message : Message}
    (h : message.WellFormed delimiter) :
    ∃ first others, message.parts delimiter = first :: others := by
  apply List.exists_cons_of_ne_nil
  intro hnil
  have hlength := congrArg List.length hnil
  rw [parts, length_partsFrom] at hlength
  exact h.entities_ne_nil (List.length_eq_zero_iff.mp hlength)

end Message

end Multipart
