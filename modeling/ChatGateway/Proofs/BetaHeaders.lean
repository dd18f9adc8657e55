import ChatGateway.Exchange
import ChatGateway.Proofs.TextParts
import ChatGateway.Proofs.Thinking

namespace ChatGateway

/-! Repeated beta headers. They are joined to one text, which asks for thinking just when one
of them does: a word cannot reach over the comma between two headers, and nothing of it is
lost with the blanks around a header. Blank headers leave no trace in the joined text. -/

namespace Text

/-! Words in a text that is put together of parts. -/

section

variable {mark : Char} {word : List Char}

theorem infix_cons_iff_of_not_mem (absent : mark ∉ word) (rest : List Char) :
    word <:+: mark :: rest ↔ word <:+: rest := by
  rw [List.infix_cons_iff]
  refine or_iff_right_of_imp ?_
  intro begins
  cases word with
  | nil => exact List.nil_infix
  | cons head word =>
      have equal : head = mark := (List.cons_prefix_cons.mp begins).1
      exact absurd (equal ▸ List.mem_cons_self) absent

theorem prefix_append_cons_iff (absent : mark ∉ word) (front back : List Char) :
    word <+: front ++ mark :: back ↔ word <+: front := by
  constructor
  · intro begins
    have marked : front ++ [mark] <+: front ++ mark :: back := ⟨back, by simp⟩
    rcases List.prefix_or_prefix_of_prefix begins marked with inside | beyond
    · rcases List.prefix_concat_iff.mp inside with equal | inside
      · exact absurd (by simp [equal]) absent
      · exact inside
    · exact absurd (beyond.subset (by simp)) absent
  · intro begins
    exact begins.trans (List.prefix_append front _)

/-- A word stands on one side of a mark that it does not hold. -/
theorem infix_append_cons_iff (absent : mark ∉ word) (front back : List Char) :
    word <:+: front ++ mark :: back ↔ word <:+: front ∨ word <:+: back := by
  induction front with
  | nil =>
      rw [List.nil_append, infix_cons_iff_of_not_mem absent, List.infix_nil]
      refine (or_iff_right_of_imp ?_).symm
      intro empty
      rw [empty]
      exact List.nil_infix
  | cons head front induction =>
      rw [List.cons_append, List.infix_cons_iff, induction, ← List.cons_append,
        prefix_append_cons_iff absent, ← or_assoc, ← List.infix_cons_iff]

theorem infix_intercalate_iff (absent : mark ∉ word) (visible : word ≠ [])
    (parts : List (List Char)) :
    word <:+: [mark].intercalate parts ↔ ∃ part ∈ parts, word <:+: part := by
  induction parts with
  | nil => simp [visible]
  | cons first rest induction =>
      cases rest with
      | nil => simp
      | cons second rest =>
          rw [List.intercalate_cons_cons, List.append_assoc, List.singleton_append,
            infix_append_cons_iff absent, induction]
          simp only [List.mem_cons, exists_eq_or_imp]

theorem infix_dropWhile_iff (solid : ∀ char ∈ word, isBlank char = false) (text : List Char) :
    word <:+: text.dropWhile isBlank ↔ word <:+: text := by
  induction text with
  | nil => rfl
  | cons head rest induction =>
      cases blank : isBlank head with
      | false => rw [List.dropWhile_cons_of_neg (Bool.eq_false_iff.mp blank)]
      | true =>
          have absent : head ∉ word := by
            intro member
            exact absurd (blank.symm.trans (solid head member)) (by decide)
          rw [List.dropWhile_cons_of_pos blank, induction, infix_cons_iff_of_not_mem absent]

theorem infix_trimChars_iff (solid : ∀ char ∈ word, isBlank char = false) (text : List Char) :
    word <:+: trimChars text ↔ word <:+: text := by
  have reversed : ∀ char ∈ word.reverse, isBlank char = false := by
    intro char member
    exact solid char (List.mem_reverse.mp member)
  rw [trimChars, ← List.reverse_infix, List.reverse_reverse, infix_dropWhile_iff reversed,
    List.reverse_infix, infix_dropWhile_iff solid]

end

/-! Words whose case is ignored. -/

theorem toLower_of_isBlank {char : Char} (blank : isBlank char = true) : char.toLower = char := by
  apply dif_neg
  intro upper
  have above : 65 ≤ char.toNat := upper.1
  have below : char.toNat ≤ 90 := upper.2
  rw [isBlank] at blank
  simp only [Bool.or_eq_true, Bool.and_eq_true, decide_eq_true_eq, beq_iff_eq] at blank
  omega

structure IsToken (word : String) : Prop where
  visible : word ≠ ""
  undivided : ',' ∉ word.toList
  solid : word.toList.any isBlank = false

section

variable {word : String} {part : List Char}

theorem IsToken.ne_nil (token : IsToken word) (lowered : part.map Char.toLower = word.toList) :
    part ≠ [] := by
  intro empty
  rw [empty, List.map_nil] at lowered
  exact token.visible (String.toList_eq_nil_iff.mp lowered.symm)

theorem IsToken.comma_not_mem (token : IsToken word)
    (lowered : part.map Char.toLower = word.toList) : ',' ∉ part := by
  intro member
  exact token.undivided (lowered ▸ List.mem_map_of_mem member)

theorem IsToken.solid_of_lowered (token : IsToken word)
    (lowered : part.map Char.toLower = word.toList) :
    ∀ char ∈ part, isBlank char = false := by
  intro char member
  rw [← Bool.not_eq_true]
  intro blank
  have kept : char ∈ word.toList := by
    rw [← lowered, ← toLower_of_isBlank blank]
    exact List.mem_map_of_mem member
  exact List.any_eq_false.mp token.solid char kept blank

theorem mentions_trim_iff (token : IsToken word) (text : String) :
    Mentions (trim text) word ↔ Mentions text word := by
  rw [Mentions, Mentions, trim, String.toList_ofList]
  refine exists_congr fun part => and_congr_left fun lowered => ?_
  exact infix_trimChars_iff (token.solid_of_lowered lowered) text.toList

theorem allBlank_of_mentions (token : IsToken word) {text : String}
    (mentioned : Mentions text word) : allBlank text = false := by
  rcases mentioned with ⟨part, inside, lowered⟩
  rcases List.exists_mem_of_ne_nil part (token.ne_nil lowered) with ⟨char, member⟩
  rw [allBlank, List.all_eq_false]
  exact ⟨char, inside.subset member, by simp [token.solid_of_lowered lowered char member]⟩

theorem mentions_join_iff (token : IsToken word) (parts : List String) :
    Mentions (join "," parts) word ↔ ∃ part ∈ parts, Mentions part word := by
  have joined : (join "," parts).toList = [','].intercalate (parts.map String.toList) := by
    rw [join, String.toList_intercalate]
    rfl
  constructor
  · intro mentioned
    rcases mentioned with ⟨chars, inside, lowered⟩
    rw [joined, infix_intercalate_iff (token.comma_not_mem lowered) (token.ne_nil lowered)]
      at inside
    rcases inside with ⟨_, member, inside⟩
    rcases List.mem_map.mp member with ⟨part, partMember, rfl⟩
    exact ⟨part, partMember, chars, inside, lowered⟩
  · intro mentioned
    rcases mentioned with ⟨part, member, chars, inside, lowered⟩
    refine ⟨chars, ?_, lowered⟩
    rw [joined, infix_intercalate_iff (token.comma_not_mem lowered) (token.ne_nil lowered)]
    exact ⟨part.toList, List.mem_map_of_mem member, inside⟩

end

end Text

namespace Header

/-! The joined text. -/

theorem notBlank?_eq (text : String) :
    notBlank? text = if Text.allBlank text = true then none else some (Text.trim text) := by
  rw [notBlank?]
  exact if_congr (Text.trim_eq_empty_iff text) rfl rfl

theorem filterMap_notBlank? (values : List String) :
    values.filterMap notBlank? =
      (values.filter fun value => !Text.allBlank value).map Text.trim := by
  induction values with
  | nil => rfl
  | cons value values induction =>
      rw [List.filterMap_cons, List.filter_cons, notBlank?_eq, induction]
      cases Text.allBlank value <;> rfl

theorem joinBetas_eq (values : List String) :
    joinBetas values =
      if values.filterMap notBlank? = [] then none
      else some (Text.join "," (values.filterMap notBlank?)) := by
  rw [joinBetas]
  cases values.filterMap notBlank? <;> rfl

theorem joinBetas_filter (values : List String) :
    joinBetas (values.filter fun value => !Text.allBlank value) = joinBetas values := by
  have kept : (values.filter fun value => !Text.allBlank value).filterMap notBlank? =
      values.filterMap notBlank? := by
    rw [filterMap_notBlank?, filterMap_notBlank?, List.filter_filter]
    simp only [Bool.and_self]
  rw [joinBetas, joinBetas, kept]

theorem joinBetas_eq_none_iff (values : List String) :
    joinBetas values = none ↔ ∀ value ∈ values, Text.allBlank value = true := by
  rw [joinBetas_eq, filterMap_notBlank?]
  simp

theorem any_mentions_joinBetas_iff {word : String} (token : Text.IsToken word)
    (values : List String) :
    (joinBetas values).any (Text.mentions · word) = true ↔
      ∃ value ∈ values, Text.Mentions value word := by
  have joined : (joinBetas values).any (Text.mentions · word) = true ↔
      ∃ part ∈ values.filterMap notBlank?, Text.Mentions part word := by
    rw [joinBetas_eq]
    split
    · next nothing => simp [nothing]
    · rw [Option.any_some, Text.mentions_iff, Text.mentions_join_iff token]
  rw [joined, filterMap_notBlank?]
  constructor
  · intro mentioned
    rcases mentioned with ⟨_, member, inside⟩
    rcases List.mem_map.mp member with ⟨value, kept, rfl⟩
    exact ⟨value, (List.mem_filter.mp kept).1, (Text.mentions_trim_iff token value).mp inside⟩
  · intro mentioned
    rcases mentioned with ⟨value, member, inside⟩
    have visible := Text.allBlank_of_mentions token inside
    exact ⟨Text.trim value, List.mem_map_of_mem (List.mem_filter.mpr ⟨member, by simp [visible]⟩),
      (Text.mentions_trim_iff token value).mpr inside⟩

/-! The headers that the values come from. -/

def GivesBeta (headers : List Header) (value : String) : Prop :=
  ∃ header ∈ headers, header.name = "anthropic-beta" ∧ header.text? = some value

theorem mem_texts_iff (headers : List Header) (value : String) :
    value ∈ texts headers betaName ↔ GivesBeta headers value := by
  rw [texts, List.mem_filterMap, GivesBeta]
  refine exists_congr fun header => ?_
  rw [List.mem_filter, beq_iff_eq, betaName, and_assoc]

def isBlankBeta (header : Header) : Bool :=
  header.name == betaName && header.text?.any Text.allBlank

theorem filter_texts (headers : List Header) :
    (texts headers betaName).filter (fun value => !Text.allBlank value) =
      texts (headers.filter fun header => !header.isBlankBeta) betaName := by
  rw [texts, texts, List.filter_filterMap, List.filterMap_filter, List.filter_filter,
    List.filterMap_filter]
  refine List.filterMap_congr fun header _ => ?_
  rw [isBlankBeta]
  cases header.name == betaName with
  | false => rfl
  | true =>
      cases header.text? with
      | none => simp
      | some value => cases blank : Text.allBlank value <;> simp [blank]

theorem anthropicBeta_filter (headers : List Header) :
    (CallContext.ofHeaders (headers.filter fun header => !header.isBlankBeta)).anthropicBeta =
      (CallContext.ofHeaders headers).anthropicBeta := by
  change joinBetas (texts (headers.filter fun header => !header.isBlankBeta) betaName) =
    joinBetas (texts headers betaName)
  rw [← filter_texts, joinBetas_filter]

/-- The beta headers of a request ask for thinking just when a single one does. They give no
text just when every one is blank, and blank ones can be dropped, moved or repeated without
changing it. -/
theorem beta_headers_ask_singly (headers : List Header) :
    let joined := (CallContext.ofHeaders headers).anthropicBeta
    (joined.any (Text.mentions · ThinkingSignal.marker) = true ↔
      ∃ value, GivesBeta headers value ∧ Text.Mentions value "thinking") ∧
    (joined = none ↔ ∀ value, GivesBeta headers value → Text.allBlank value = true) ∧
    ∀ others : List Header,
      (others.filter fun header => !header.isBlankBeta) =
          headers.filter (fun header => !header.isBlankBeta) →
        (CallContext.ofHeaders others).anthropicBeta = joined := by
  intro joined
  refine ⟨?_, ?_, ?_⟩
  · have token : Text.IsToken "thinking" := ⟨by decide, by decide, by decide⟩
    refine (any_mentions_joinBetas_iff token (texts headers betaName)).trans ?_
    exact exists_congr fun value => and_congr_left fun _ => mem_texts_iff headers value
  · refine (joinBetas_eq_none_iff (texts headers betaName)).trans ?_
    exact forall_congr' fun value => imp_congr_left (mem_texts_iff headers value)
  · intro others alike
    rw [← anthropicBeta_filter others, alike, anthropicBeta_filter headers]

def ofBeta (value : String) : Header :=
  ⟨betaName, value.toUTF8⟩

def scatteredBetas : List Header :=
  [ofBeta " ", ofBeta "web-search-2025-03-05", ofBeta "\t", ofBeta " Interleaved-Thinking "]

theorem beta_of_scatteredBetas :
    let plain := [ofBeta "web-search-2025-03-05", ofBeta " Interleaved-Thinking "]
    (plain.filter fun header => !header.isBlankBeta) =
        scatteredBetas.filter (fun header => !header.isBlankBeta) ∧
      (CallContext.ofHeaders plain).anthropicBeta =
        (CallContext.ofHeaders scatteredBetas).anthropicBeta ∧
      (CallContext.ofHeaders plain).anthropicBeta =
        some "web-search-2025-03-05,Interleaved-Thinking" ∧
      ∃ value, GivesBeta scatteredBetas value ∧ Text.Mentions value "thinking" := by
  intro plain
  have blank : (ofBeta " ").isBlankBeta = true ∧ (ofBeta "\t").isBlankBeta = true := by
    decide +kernel
  have alike : (plain.filter fun header => !header.isBlankBeta) =
      scatteredBetas.filter (fun header => !header.isBlankBeta) := by
    simp [plain, scatteredBetas, List.filter_cons, blank]
  rcases beta_headers_ask_singly scatteredBetas with ⟨asks, -, unchanged⟩
  exact ⟨alike, unchanged plain alike, by decide +kernel, asks.mp (by decide +kernel)⟩

end Header

end ChatGateway
