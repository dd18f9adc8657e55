import ChatGateway.Proofs.Blocks
import ChatGateway.Proofs.Conversation
import ChatGateway.Proofs.Outgoing

namespace ChatGateway

/-! Further keys of blocks. What a client writes into a block beside its known members is
sent with the block, whatever its type and wherever it stands in the conversation; only a
part that holds the address of an image is written anew, without its further keys. -/

namespace ContentBlock

/-- The members that a block is not read by; of a block that is kept these are all. -/
def furtherMembers : ContentBlock → List (String × Json)
  | .text _ extra | .imageUrl _ _ extra | .toolUse _ _ _ extra | .toolResult _ _ _ extra
  | .thinking _ _ extra | .redactedThinking _ extra => extra.members
  | .other (.object members) => members
  | .other _ => []

def Shows (block : ContentBlock) (entry : String × Json) : Prop :=
  ∃ members, block.toJson = .object members ∧ entry ∈ members

theorem shows_tagged {type : String} {fields : List (String × Json)} {extra : Object}
    {entry : String × Json} (further : entry ∈ extra.members) :
    ∃ members, tagged .ofMembers type fields extra = .object members ∧ entry ∈ members := by
  refine ⟨_, rfl, ?_⟩
  rw [← Object.get?_eq_some_iff, Object.get?_ofList_append, Object.get?_eq_some_iff.mpr further,
    Option.some_or]

theorem shows_of_mem_furtherMembers {block : ContentBlock} {entry : String × Json}
    (further : entry ∈ block.furtherMembers) : block.Shows entry := by
  cases block with
  | other value =>
      cases value with
      | object members => exact ⟨members, rfl, further⟩
      | _ => cases further
  | _ => exact shows_tagged further

theorem shows_shown_iff {block : ContentBlock} {entry : String × Json}
    (further : entry ∈ block.furtherMembers) :
    block.shown.Shows entry ↔ ∀ address detail extra, block = .imageUrl address detail extra →
      entry = ("source", imageSource address) ∨ entry = ("type", .string "image") := by
  cases block with
  | imageUrl address detail extra =>
      constructor
      · rintro ⟨members, written, inside⟩ _ _ _ equal
        cases equal
        cases written
        simpa using inside
      · intro image
        refine ⟨_, rfl, ?_⟩
        simpa using image address detail extra rfl
  | _ =>
      refine iff_of_true (shows_of_mem_furtherMembers further) ?_
      intro _ _ _ equal
      cases equal

end ContentBlock

namespace ChatMessage

def leadingBlocks (message : ChatMessage) : List ContentBlock :=
  if message.role = .assistant then message.sideBlocks else []

def trailingBlocks (message : ChatMessage) : List ContentBlock :=
  if message.role = .assistant then (message.toolCalls.getD []).map ToolCall.asked else []

theorem expansion_of_blocks {message : ChatMessage}
    (speaks : message.role = .user ∨ message.role = .assistant) {blocks : List ContentBlock}
    (content : message.content = some (.blocks blocks)) :
    message.expansion = (message.leadingBlocks ++ blocks.map ContentBlock.shown ++
      message.trailingBlocks).map (message.role, ·) := by
  rw [expansion, parts, content, leadingBlocks, trailingBlocks]
  rcases speaks with role | role <;> simp [role]

end ChatMessage

theorem ne_emptyText_of_mem_furtherMembers {block : ContentBlock} {entry : String × Json}
    (further : entry ∈ block.furtherMembers) : block.shown ≠ .plainText "" := by
  cases block with
  | text content extra =>
      intro equal
      cases equal
      cases further
  | _ => nofun

namespace Payload

/-- A block with further members is sent in its place, and with each of these members just
when it is not the address of an image: of that only the image's own members are sent. -/
theorem further_member_sent_iff (request : ChatRequest) (defaults : PayloadDefaults)
    {before after : List ChatMessage} {message : ChatMessage} {front back : List ContentBlock}
    {block : ContentBlock} {entry : String × Json}
    (conversation : request.messages = before ++ message :: after)
    (speaks : message.role = .user ∨ message.role = .assistant)
    (content : message.content = some (.blocks (front ++ block :: back)))
    (further : entry ∈ block.furtherMembers) :
    let sent := (ofRequest request false defaults).messages
    let said (blocks : List ContentBlock) := blocks.map (message.role, ·)
    withoutEmptyTexts (sent.flatMap ChatMessage.spoken) =
        withoutEmptyTexts (before.flatMap ChatMessage.expansion ++
          said (message.leadingBlocks ++ front.map ContentBlock.shown)) ++
        (message.role, block.shown) ::
          withoutEmptyTexts (said (back.map ContentBlock.shown ++ message.trailingBlocks) ++
            after.flatMap ChatMessage.expansion) ∧
      (block.shown.Shows entry ↔ ∀ address detail extra, block = .imageUrl address detail extra →
        entry = ("source", imageSource address) ∨ entry = ("type", .string "image")) := by
  intro sent said
  refine ⟨?_, ContentBlock.shows_shown_iff further⟩
  have kept (others : List (Role × ContentBlock)) :
      withoutEmptyTexts ((message.role, block.shown) :: others) =
        (message.role, block.shown) :: withoutEmptyTexts others :=
    List.filter_cons_of_pos (bne_iff_ne.mpr (ne_emptyText_of_mem_furtherMembers further))
  have generic : sent = genericMessages request.messages := rfl
  rw [generic, genericMessages_say_expansions, conversation, List.flatMap_append,
    List.flatMap_cons, ChatMessage.expansion_of_blocks speaks content, ← kept,
    ← withoutEmptyTexts_append]
  simp only [said, List.map_append, List.map_cons, List.append_assoc, List.cons_append]

def cacheMark : String × Json :=
  ("cache_control", .object [("type", .string "ephemeral")])

def markedText : ContentBlock :=
  .text "Look" (.ofList [cacheMark])

def markedImage : ContentBlock :=
  .imageUrl "https://example.com/a.png" none (.ofList [cacheMark])

def markedRequest : ChatRequest :=
  .ofMessages "claude" [.ofContent .user (.blocks [markedText, markedImage])]

theorem mark_sent_of_markedText :
    cacheMark ∈ markedText.furtherMembers ∧
      withoutEmptyTexts ((ofRequest markedRequest false default).messages.flatMap
        ChatMessage.spoken) = [(.user, markedText), (.user, markedImage.shown)] ∧
      markedText.Shows cacheMark := by
  let message : ChatMessage := .ofContent .user (.blocks [markedText, markedImage])
  have further : cacheMark ∈ markedText.furtherMembers := List.mem_singleton_self _
  have conversation : markedRequest.messages = [] ++ message :: [] := rfl
  have content : message.content = some (.blocks ([] ++ markedText :: [markedImage])) := rfl
  rcases further_member_sent_iff markedRequest default conversation (.inl rfl) content further with
    ⟨sent, shown⟩
  exact ⟨further, sent, shown.mpr nofun⟩

theorem mark_lost_of_markedImage :
    cacheMark ∈ markedImage.furtherMembers ∧
      (ofRequest markedRequest false default).messages.flatMap ChatMessage.spoken =
        [(.user, markedText), (.user, markedImage.shown)] ∧
      ¬ markedImage.shown.Shows cacheMark := by
  refine ⟨List.mem_singleton_self _, by decide +kernel, ?_⟩
  rintro ⟨members, written, inside⟩
  cases written
  simp [cacheMark] at inside

end Payload

end ChatGateway
