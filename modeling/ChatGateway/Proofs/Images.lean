import ChatGateway.Proofs.Reasoning
import ChatGateway.Proofs.TextParts

namespace ChatGateway

/-! Images by their addresses. An address of a part becomes the source of an image: a link,
or the data that stands in the address with their type. All that begins as an address of
data and has a comma is read as data, whether or not it says that they are coded. So the
source gives the address back up to that word, and two addresses have one source just when
they differ in it alone. -/

inductive ImageSource where
  | link (address : String)
  /-- The data, coded in letters and digits. -/
  | inline (mediaType data : String)
  deriving DecidableEq

namespace ImageSource

def toJson : ImageSource → Json
  | link address => .object [("type", .string "url"), ("url", .string address)]
  | inline mediaType data =>
      .object [("data", .string data), ("media_type", .string mediaType),
        ("type", .string "base64")]

theorem toJson_injective : Function.Injective toJson := by
  intro left right same
  cases left with
  | link =>
      cases right with
      | link => simpa [toJson] using same
      | inline => simp [toJson] at same
  | inline =>
      cases right with
      | link => simp [toJson] at same
      | inline => simpa [toJson, and_comm] using same

end ImageSource

/-! Addresses of data. -/

/-- The address of data as they stand. -/
def plainAddress (mediaType data : String) : String :=
  "data:" ++ mediaType ++ "," ++ data

def codedAddress (mediaType data : String) : String :=
  "data:" ++ mediaType ++ ";base64," ++ data

theorem codedAddress_eq_plainAddress (mediaType data : String) :
    codedAddress mediaType data = plainAddress (mediaType ++ ";base64") data := by
  simp [codedAddress, plainAddress, ← String.toList_inj]

def Undivided (text : String) : Prop :=
  ',' ∉ text.toList

theorem undivided_append_base64_iff (mediaType : String) :
    Undivided (mediaType ++ ";base64") ↔ Undivided mediaType := by
  simp [Undivided]

def Unmarked (mediaType : String) : Prop :=
  ∀ front, mediaType ≠ front ++ ";base64"

def dataParts? (address : String) : Option (List Char × List Char) :=
  (Text.dropHead? address "data:").bind fun rest => Text.splitAtFirst? ',' rest.toList

theorem dataParts?_eq_some_iff {address : String} {header data : List Char} :
    dataParts? address = some (header, data) ↔
      address = plainAddress (.ofList header) (.ofList data) ∧ ',' ∉ header := by
  have behind (rest : String) :
      rest.toList = header ++ ',' :: data ↔ rest = .ofList header ++ "," ++ .ofList data := by
    simp [← String.toList_inj]
  simp only [dataParts?, Option.bind_eq_some_iff, Text.dropHead?_eq_some_iff,
    Text.splitAtFirst?_eq_some_iff, behind, plainAddress]
  constructor
  · intro parts
    rcases parts with ⟨rest, whole, equal, undivided⟩
    rw [equal, ← String.append_assoc, ← String.append_assoc] at whole
    exact ⟨whole, undivided⟩
  · intro parts
    refine ⟨_, ?_, rfl, parts.2⟩
    rw [parts.1, ← String.append_assoc, ← String.append_assoc]

theorem dataParts?_eq_none_iff {address : String} :
    dataParts? address = none ↔ ∀ header data, address ≠ plainAddress header data := by
  constructor
  · intro none header data equal
    have dropped : Text.dropHead? address "data:" = some (header ++ "," ++ data) := by
      rw [Text.dropHead?_eq_some_iff, equal, plainAddress]
      simp [← String.toList_inj]
    rw [dataParts?, dropped, Option.bind_some, Text.splitAtFirst?_eq_none_iff] at none
    simp at none
  · intro outside
    cases parts : dataParts? address with
    | none => rfl
    | some found => exact absurd (dataParts?_eq_some_iff.mp parts).1 (outside _ _)

theorem plainAddress_inj {header other data others : String} (undivided : Undivided header)
    (otherUndivided : Undivided other)
    (same : plainAddress header data = plainAddress other others) :
    header = other ∧ data = others := by
  have parts (header data : String) (undivided : Undivided header) :
      dataParts? (plainAddress header data) = some (header.toList, data.toList) := by
    rw [dataParts?_eq_some_iff, String.ofList_toList, String.ofList_toList]
    exact ⟨rfl, undivided⟩
  have equal := (parts header data undivided).symm.trans
    ((congrArg dataParts? same).trans (parts other others otherUndivided))
  simpa [String.toList_inj] using equal

/-! Sources. -/

/-- An address, and the source that it is read as. -/
inductive ImageSource.Reads (address : String) : ImageSource → Prop where
  | link (outside : ∀ header data, address ≠ plainAddress header data) :
      Reads address (.link address)
  | coded {mediaType data : String} (undivided : Undivided mediaType)
      (equal : address = codedAddress mediaType data) : Reads address (.inline mediaType data)
  /-- Data that are not said to be coded are sent as if they were. -/
  | plain {mediaType data : String} (undivided : Undivided mediaType)
      (unmarked : Unmarked mediaType) (equal : address = plainAddress mediaType data) :
      Reads address (.inline mediaType data)

namespace ImageSource.Reads

variable {address : String}

theorem exists_header {mediaType data : String} (reads : (inline mediaType data).Reads address) :
    ∃ header, Undivided header ∧ address = plainAddress header data ∧
      (Text.dropTail? header ";base64").getD header = mediaType := by
  cases reads with
  | coded undivided equal =>
      refine ⟨mediaType ++ ";base64", (undivided_append_base64_iff _).mpr undivided, ?_, ?_⟩
      · rw [equal, codedAddress_eq_plainAddress]
      · rw [Text.dropTail?_eq_some_iff.mpr rfl, Option.getD_some]
  | plain undivided unmarked equal =>
      refine ⟨mediaType, undivided, equal, ?_⟩
      cases marked : Text.dropTail? mediaType ";base64" with
      | none => rfl
      | some front => exact absurd (Text.dropTail?_eq_some_iff.mp marked) (unmarked front)

theorem unique {left right : ImageSource} (first : left.Reads address)
    (second : right.Reads address) : left = right := by
  cases left with
  | link leftAddress =>
      cases right with
      | link rightAddress =>
          cases first
          cases second
          rfl
      | inline =>
          rcases second.exists_header with ⟨header, -, equal, -⟩
          cases first with
          | link outside => exact absurd equal (outside _ _)
  | inline =>
      rcases first.exists_header with ⟨header, undivided, equal, told⟩
      cases right with
      | link =>
          cases second with
          | link outside => exact absurd equal (outside _ _)
      | inline =>
          rcases second.exists_header with ⟨other, otherUndivided, otherEqual, otherTold⟩
          rcases plainAddress_inj undivided otherUndivided (equal.symm.trans otherEqual) with
            ⟨rfl, rfl⟩
          rw [← told, otherTold]

end ImageSource.Reads

def ImageSource.ofAddress (address : String) : ImageSource :=
  match dataParts? address with
  | some (header, data) =>
      .inline ((Text.dropTail? (.ofList header) ";base64").getD (.ofList header)) (.ofList data)
  | none => .link address

theorem imageSource_eq (address : String) :
    imageSource address = (ImageSource.ofAddress address).toJson := by
  rw [ImageSource.ofAddress, imageSource, ← dataParts?]
  cases dataParts? address <;> rfl

theorem reads_ofAddress (address : String) : (ImageSource.ofAddress address).Reads address := by
  rw [ImageSource.ofAddress]
  cases parts : dataParts? address with
  | none => exact .link (dataParts?_eq_none_iff.mp parts)
  | some found =>
      rcases found with ⟨header, data⟩
      rcases dataParts?_eq_some_iff.mp parts with ⟨equal, absent⟩
      have undivided : Undivided (.ofList header) := by simpa [Undivided] using absent
      dsimp only
      cases marked : Text.dropTail? (.ofList header) ";base64" with
      | some mediaType =>
          have ends := Text.dropTail?_eq_some_iff.mp marked
          rw [ends] at equal undivided
          rw [← codedAddress_eq_plainAddress] at equal
          exact .coded ((undivided_append_base64_iff _).mp undivided) equal
      | none =>
          have unmarked : Unmarked (.ofList header) := by
            intro front ends
            rw [Text.dropTail?_eq_some_iff.mpr ends] at marked
            cases marked
          exact .plain undivided unmarked equal

theorem ofAddress_of_reads {address : String} {source : ImageSource}
    (reads : source.Reads address) : ImageSource.ofAddress address = source :=
  (reads_ofAddress address).unique reads

/-- The one address says that its data are coded, and the other has the same data and does
not say so. -/
def DifferInMark (coded plain : String) : Prop :=
  ∃ mediaType data, Undivided mediaType ∧ Unmarked mediaType ∧
    coded = codedAddress mediaType data ∧ plain = plainAddress mediaType data

theorem ofAddress_of_differInMark {coded plain : String} (differ : DifferInMark coded plain) :
    ImageSource.ofAddress coded = ImageSource.ofAddress plain := by
  rcases differ with ⟨mediaType, data, undivided, unmarked, equal, otherEqual⟩
  rw [ofAddress_of_reads (.coded undivided equal),
    ofAddress_of_reads (.plain undivided unmarked otherEqual)]

/-- Addresses that become one source are one address, or differ in the word for coded data. -/
theorem ofAddress_eq_iff (first second : String) :
    ImageSource.ofAddress second = ImageSource.ofAddress first ↔
      second = first ∨ DifferInMark first second ∨ DifferInMark second first := by
  constructor
  · intro same
    have firstReads := reads_ofAddress first
    have secondReads := reads_ofAddress second
    rw [same] at secondReads
    generalize ImageSource.ofAddress first = source at firstReads secondReads
    cases firstReads with
    | link =>
        cases secondReads with
        | link => exact .inl rfl
    | coded undivided equal =>
        cases secondReads with
        | coded _ again => exact .inl (again.trans equal.symm)
        | plain _ unmarked other => exact .inr (.inl ⟨_, _, undivided, unmarked, equal, other⟩)
    | plain undivided unmarked equal =>
        cases secondReads with
        | coded _ other => exact .inr (.inr ⟨_, _, undivided, unmarked, other, equal⟩)
        | plain _ _ again => exact .inl (again.trans equal.symm)
  · intro alike
    rcases alike with equal | differ | differ
    · rw [equal]
    · exact (ofAddress_of_differInMark differ).symm
    · exact ofAddress_of_differInMark differ

/-! Parts with an address, and what is sent for them. -/

namespace ContentBlock

def image (source : ImageSource) : ContentBlock :=
  .other (.object [("source", source.toJson), ("type", .string "image")])

theorem shown_imageUrl (address : String) (detail : Option String) (extra : Object) :
    (imageUrl address detail extra).shown = image (.ofAddress address) := by
  rw [shown, imageSource_eq, image]

theorem image_injective : Function.Injective image := by
  intro left right same
  have written : left.toJson = right.toJson := by simpa [image] using same
  exact ImageSource.toJson_injective written

end ContentBlock

/-- The block is sent for a part of the message: among the blocks of a message of its role, or
in the result of its tool. -/
def SentFor (message : ChatMessage) (block : ContentBlock) (sent : List ChatMessage) : Prop :=
  match message.role with
  | .system => False
  | .tool => ∃ values, block.toJson ∈ values ∧ ∃ carrier ∈ sent, carrier.role = .user ∧
      .toolResult (message.toolCallId.getD "") (some (.array values)) none .empty ∈ carrier.blocks
  | role => ∃ carrier ∈ sent, carrier.role = role ∧ block ∈ carrier.blocks

theorem exists_answered_of_mem_blocks {message : ChatMessage} {block : ContentBlock}
    (inside : block ∈ message.blocks) :
    ∃ values, message.answered = some (.array values) ∧ block.shown.toJson ∈ values := by
  rw [ChatMessage.blocks] at inside
  rw [ChatMessage.answered]
  cases holds : message.content with
  | none =>
      rw [holds] at inside
      cases inside
  | some content =>
      rw [holds] at inside
      cases content with
      | text text => cases inside
      | blocks blocks => exact ⟨_, rfl, List.mem_map.mpr ⟨block, inside, rfl⟩⟩

theorem sentFor_genericMessages {messages : List ChatMessage} {message : ChatMessage}
    (member : message ∈ messages) (speaks : message.role ≠ .system) {block : ContentBlock}
    (inside : block ∈ message.blocks) (notText : ∀ text, block ≠ .plainText text)
    (shownNotText : ∀ text, block.shown ≠ .plainText text) :
    SentFor message block.shown (genericMessages messages) := by
  have spoken (turn : message.role = .user ∨ message.role = .assistant) :
      ∃ carrier ∈ genericMessages messages, carrier.role = message.role ∧
        block.shown ∈ carrier.blocks :=
    exists_generic_of_mem_expansion member (shown_mem_expansion turn inside notText) shownNotText
  rw [SentFor]
  cases role : message.role with
  | system => exact absurd role speaks
  | user =>
      rw [role] at spoken
      exact spoken (.inl rfl)
  | assistant =>
      rw [role] at spoken
      exact spoken (.inr rfl)
  | tool =>
      rcases exists_answered_of_mem_blocks inside with ⟨values, answered, held⟩
      refine ⟨values, held, exists_generic_of_mem_expansion member ?_ nofun⟩
      rw [ChatMessage.expansion, role, answered]
      exact List.mem_singleton_self _

namespace Payload

/-- A part with an image's address is sent as an image, with a source that the address is read
as. Two addresses are sent as one source just when they are one address, or differ only in
the word for coded data. -/
theorem image_sent_by_source {request : ChatRequest} (defaults : PayloadDefaults)
    {message : ChatMessage} (member : message ∈ request.messages)
    (speaks : message.role ≠ .system) {address : String} {detail : Option String}
    {extra : Object} (part : .imageUrl address detail extra ∈ message.blocks) :
    (∃ source : ImageSource, source.Reads address ∧
        ContentBlock.withImageSource (.imageUrl address detail extra) = .image source ∧
        SentFor message (.image source) (ofRequest request false defaults).messages) ∧
      ∀ other otherDetail otherExtra,
        ContentBlock.withImageSource (.imageUrl other otherDetail otherExtra) =
            ContentBlock.withImageSource (.imageUrl address detail extra) ↔
          other = address ∨ DifferInMark address other ∨ DifferInMark other address := by
  rw [withImageSource_eq_shown]
  constructor
  · have sent := sentFor_genericMessages member speaks part nofun nofun
    rw [ContentBlock.shown_imageUrl] at sent
    exact ⟨_, reads_ofAddress address, ContentBlock.shown_imageUrl .., sent⟩
  · intro other otherDetail otherExtra
    rw [ContentBlock.shown_imageUrl, ContentBlock.shown_imageUrl,
      ContentBlock.image_injective.eq_iff, ofAddress_eq_iff]

def drawing : String :=
  plainAddress "image/svg+xml" "<svg/>"

def drawingSource : ImageSource :=
  .inline "image/svg+xml" "<svg/>"

def drawingRequest : ChatRequest :=
  .ofMessages "claude" [.ofContent .user (.blocks [.imageUrl drawing none .empty])]

theorem image_sent_of_drawing :
    let message : ChatMessage := .ofContent .user (.blocks [.imageUrl drawing none .empty])
    message ∈ drawingRequest.messages ∧ message.role ≠ .system ∧
      .imageUrl drawing none .empty ∈ message.blocks ∧
      ∃ source : ImageSource, source.Reads drawing ∧
        SentFor message (.image source) (ofRequest drawingRequest false default).messages := by
  intro message
  have member : message ∈ drawingRequest.messages := List.mem_singleton_self _
  have speaks : message.role ≠ .system := by decide
  have part : .imageUrl drawing none .empty ∈ message.blocks := List.mem_singleton_self _
  rcases (image_sent_by_source default member speaks part).1 with ⟨source, reads, -, sent⟩
  exact ⟨member, speaks, part, source, reads, sent⟩

/-- The drawing is sent as coded data, though its address does not say so, and shares its
source with the address that does. -/
theorem drawing_sent_as_coded :
    (ofRequest drawingRequest false default).messages =
        [.ofContent .user (.blocks [.image drawingSource])] ∧
      drawing ≠ codedAddress "image/svg+xml" "<svg/>" ∧
      ContentBlock.withImageSource (.imageUrl drawing none .empty) =
        ContentBlock.withImageSource
          (.imageUrl (codedAddress "image/svg+xml" "<svg/>") none .empty) := by
  decide +kernel

end Payload

end ChatGateway
