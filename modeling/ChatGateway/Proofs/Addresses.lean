import ChatGateway.Proofs.TextParts
import ChatGateway.Url
import Mathlib.Data.List.Basic
import Mathlib.Data.List.TakeWhile

namespace ChatGateway

/-! Addresses that go on behind a directory. Whatever follows a path that ends with a
slash, the scheme and the authority of the address are those of the directory; and what
follows without a mark of its own is one more step. -/

namespace Url

theorem cutAt_append_of_cut {mark : Char} {text before after : List Char}
    (cut : cutAt mark text = (before, some after)) (more : List Char) :
    cutAt mark (text ++ more) = (before, some (after ++ more)) := by
  rw [cutAt, Text.splitAtFirst?_append]
  rw [cutAt] at cut
  cases found : Text.splitAtFirst? mark text with
  | none =>
      rw [found] at cut
      cases cut
  | some parts =>
      rw [found] at cut
      cases cut
      rfl

theorem cutAt_append_of_uncut {mark : Char} {text before : List Char}
    (uncut : cutAt mark text = (before, none)) (more : List Char) :
    before = text ∧
      cutAt mark (text ++ more) = (text ++ (cutAt mark more).1, (cutAt mark more).2) := by
  rw [cutAt, cutAt, Text.splitAtFirst?_append]
  rw [cutAt] at uncut
  cases found : Text.splitAtFirst? mark text with
  | some parts =>
      rw [found] at uncut
      cases uncut
  | none =>
      rw [found] at uncut
      cases uncut
      refine ⟨rfl, ?_⟩
      cases Text.splitAtFirst? mark more <;> rfl

theorem cutAt_of_not_mem {mark : Char} {text : List Char} (absent : mark ∉ text) :
    cutAt mark text = (text, none) := by
  rw [cutAt, Text.splitAtFirst?_eq_none_iff.mpr absent]

/-! Schemes. -/

theorem scheme?_append {text : List Char} (slash : '/' ∈ text) (more : List Char) :
    scheme? (text ++ more) = (scheme? text).map fun (scheme, rest) => (scheme, rest ++ more) := by
  rw [scheme?, scheme?, Text.splitAtFirst?_append]
  cases Text.splitAtFirst? ':' text with
  | some parts =>
      rcases parts with ⟨before, after⟩
      cases before with
      | nil => rfl
      | cons head name =>
          dsimp only
          split <;> rfl
  | none =>
      cases Text.splitAtFirst? ':' more with
      | none => rfl
      | some parts =>
          cases text with
          | nil => cases slash
          | cons head name =>
              refine if_neg ?_
              change ¬ (head.isAlpha && (name ++ parts.1).all isSchemeChar) = true
              rw [Bool.and_eq_true, List.all_append, Bool.and_eq_true]
              rintro ⟨letter, others, _⟩
              rcases List.mem_cons.mp slash with rfl | later
              · exact absurd letter (by decide)
              · exact absurd (List.all_eq_true.mp others '/' later) (by decide)

theorem exists_of_scheme?_eq_some {text scheme rest : List Char}
    (read : scheme? text = some (scheme, rest)) :
    ∃ before, text = before ++ ':' :: rest ∧ '/' ∉ before := by
  rw [scheme?] at read
  split at read
  · next head name after found =>
      split at read
      · next valid =>
          cases read
          refine ⟨head :: name, (Text.splitAtFirst?_eq_some found).1, ?_⟩
          rw [Bool.and_eq_true] at valid
          intro slash
          rcases List.mem_cons.mp slash with rfl | later
          · exact absurd valid.1 (by decide)
          · exact absurd (List.all_eq_true.mp valid.2 '/' later) (by decide)
      · cases read
  · cases read

/-! Names of single steps. -/

def Undivided (text : List Char) : Prop :=
  ∀ char ∈ text, char ≠ '/' ∧ char ≠ '\\' ∧ char ≠ '?' ∧ char ≠ '#'

/-- The text is one step of a path, and one that leads on. -/
structure IsName (text : List Char) : Prop where
  undivided : Undivided text
  notUp : isUp text = false
  notHere : isHere text = false

theorem IsName.cutAt_query {text : List Char} (name : IsName text) :
    cutAt '?' text = (text, none) :=
  cutAt_of_not_mem fun mark => (name.undivided '?' mark).2.2.1 rfl

theorem IsName.cutAt_fragment {text : List Char} (name : IsName text) :
    cutAt '#' text = (text, none) :=
  cutAt_of_not_mem fun mark => (name.undivided '#' mark).2.2.2 rfl

/-! Paths. -/

theorem resolveSteps_append (above steps : List (List Char)) :
    ∃ resolved, ∀ last, isUp last = false → isHere last = false →
      resolveSteps above (steps ++ [last]) = resolved ++ [last] := by
  induction steps generalizing above with
  | nil =>
      refine ⟨above.reverse, fun last notUp notHere => ?_⟩
      rw [List.nil_append, resolveSteps]
      simp [notUp, notHere, resolveSteps]
  | cons step steps induction =>
      -- What a step does to those above does not depend on what comes last.
      have continued : ∃ next, ∀ last,
          resolveSteps above (step :: (steps ++ [last])) = resolveSteps next (steps ++ [last]) := by
        by_cases up : isUp step
        · exact ⟨above.drop 1, fun last => by rw [resolveSteps]; simp [up]⟩
        · by_cases here : isHere step
          · exact ⟨above, fun last => by rw [resolveSteps]; simp [up, here]⟩
          · exact ⟨step :: above, fun last => by rw [resolveSteps]; simp [up, here]⟩
      rcases continued with ⟨next, stepped⟩
      rcases induction next with ⟨resolved, equal⟩
      refine ⟨resolved, fun last notUp notHere => ?_⟩
      rw [List.cons_append, stepped, equal last notUp notHere]

theorem IsName.pathOf_append {text step : List Char} (name : IsName step)
    (ends : ['/'] <:+ text) : pathOf (text ++ step) = pathOf text ++ encode codedInPath step := by
  have noSlash : '/' ∉ step := fun mark => (name.undivided '/' mark).1 rfl
  have splits : ∃ steps, ∀ last, '/' ∉ last →
      Text.split '/' ((text ++ last).drop 1) = steps ++ [last] := by
    rcases ends with ⟨front, rfl⟩
    cases front with
    | nil => exact ⟨[], fun last absent => Text.split_of_not_mem absent⟩
    | cons head front =>
        refine ⟨Text.split '/' front, fun last absent => ?_⟩
        rw [List.append_assoc, List.singleton_append, List.cons_append, List.drop_one,
          List.tail_cons, Text.split_append_cons absent]
  rcases splits with ⟨steps, splits⟩
  rcases resolveSteps_append [] steps with ⟨resolved, equal⟩
  have whole := splits [] List.not_mem_nil
  rw [List.append_nil] at whole
  rw [pathOf, pathOf, splits step noSlash, whole, equal step name.notUp name.notHere,
    equal [] rfl rfl, List.flatMap_append, List.flatMap_append, List.flatMap_singleton,
    List.flatMap_singleton, List.append_assoc]
  rfl

/-! Percent codes. -/

def isPlain (char : Char) : Bool := char.isAlpha || char == ':'

theorem not_contains_of_isPlain {char : Char} (plain : isPlain char = true) {marks : List Char}
    (odd : marks.any isPlain = false) : marks.contains char = false := by
  rw [List.any_eq_false] at odd
  rw [List.contains_eq_mem, decide_eq_false_iff_not]
  exact fun mark => odd char mark plain

theorem visible_of_isPlain {char : Char} (plain : isPlain char = true) :
    0x20 ≤ char.toNat ∧ char.toNat ≤ 0x7E := by
  have visible : ∀ first last : Char, 0x20 ≤ first.toNat → last.toNat ≤ 0x7E →
      first.val ≤ char.val ∧ char.val ≤ last.val → 0x20 ≤ char.toNat ∧ char.toNat ≤ 0x7E := by
    intro first last low high within
    rw [UInt32.le_iff_toNat_le, UInt32.le_iff_toNat_le] at within
    exact ⟨Nat.le_trans low within.1, Nat.le_trans within.2 high⟩
  rcases Bool.or_eq_true_iff.mp plain with letter | colon
  · rcases Bool.or_eq_true_iff.mp letter with upper | lower
    · exact visible 'A' 'Z' (by decide) (by decide) (of_decide_eq_true upper)
    · rcases Bool.and_eq_true_iff.mp lower with ⟨low, high⟩
      exact visible 'a' 'z' (by decide) (by decide)
        ⟨of_decide_eq_true low, of_decide_eq_true high⟩
  · rw [beq_iff_eq.mp colon]
    decide

theorem not_isControl_of_isPlain {char : Char} (plain : isPlain char = true) :
    isControl char = false := by
  have within := visible_of_isPlain plain
  rw [isControl, decide_eq_false (by omega), decide_eq_false (by omega)]
  rfl

theorem not_codedInFragment_of_isPlain (char : Char) (plain : isPlain char = true) :
    codedInFragment char = false := by
  rw [codedInFragment, not_isControl_of_isPlain plain, not_contains_of_isPlain plain (by decide)]
  rfl

theorem not_codedInPath_of_isPlain (char : Char) (plain : isPlain char = true) :
    codedInPath char = false := by
  rw [codedInPath, not_codedInFragment_of_isPlain char plain,
    not_contains_of_isPlain plain (by decide)]
  rfl

theorem not_codedInQuery_of_isPlain (web : Bool) (char : Char) (plain : isPlain char = true) :
    codedInQuery web char = false := by
  have notQuote : (char == '\'') = false := by
    rw [beq_eq_false_iff_ne]
    rintro rfl
    exact absurd plain (by decide)
  rw [codedInQuery, not_isControl_of_isPlain plain, not_contains_of_isPlain plain (by decide),
    notQuote, Bool.and_false]
  rfl

theorem encode_append (isCoded : Char → Bool) (text more : List Char) :
    encode isCoded (text ++ more) = encode isCoded text ++ encode isCoded more :=
  List.flatMap_append

theorem encode_of_not_coded {isCoded : Char → Bool} {text : List Char}
    (kept : ∀ char ∈ text, isCoded char = false) : encode isCoded text = text := by
  induction text with
  | nil => rfl
  | cons head rest induction =>
      rw [List.forall_mem_cons] at kept
      rw [encode, List.flatMap_cons, encodeChar, kept.1]
      exact congrArg (head :: ·) (induction kept.2)

theorem isAlphanum_of_mem_percentCode {byte : UInt8} {char : Char}
    (member : char ∈ percentCode byte) : char = '%' ∨ char.isAlphanum = true := by
  have digits : ∀ digit : Fin 16, (hexDigit digit.val).toUpper.isAlphanum = true := by
    decide +kernel
  rw [percentCode, List.mem_cons, List.mem_cons, List.mem_singleton] at member
  rcases member with equal | rfl | rfl
  · exact .inl equal
  · exact .inr (digits ⟨byte.toNat / 16, by have := byte.toNat_lt; omega⟩)
  · exact .inr (digits ⟨byte.toNat % 16, Nat.mod_lt _ (by decide)⟩)

theorem mem_of_mem_encode {isCoded : Char → Bool} {text : List Char} {char : Char}
    (member : char ∈ encode isCoded text) :
    char ∈ text ∨ char = '%' ∨ char.isAlphanum = true := by
  rcases List.mem_flatMap.mp member with ⟨source, held, coded⟩
  rw [encodeChar] at coded
  split at coded
  · rcases List.mem_flatMap.mp coded with ⟨byte, _, inside⟩
    exact .inr (isAlphanum_of_mem_percentCode inside)
  · rw [List.mem_singleton] at coded
    exact .inl (coded ▸ held)

/-! Directories: texts that end with a path of one step or more and a slash, where the
first step starts with a letter. Nothing that is done to an address on the way to its path
takes such an end away. -/

theorem suffix_of_suffix_append {head : Char} {tail before after : List Char}
    (suffix : head :: tail <:+ before ++ after) (absent : head ∉ before) :
    head :: tail <:+ after := by
  induction before with
  | nil => exact suffix
  | cons first before induction =>
      rw [List.mem_cons, not_or] at absent
      rw [List.cons_append, List.suffix_cons_iff] at suffix
      rcases suffix with equal | suffix
      · exact absurd (List.cons.inj equal).1 absent.1
      · exact induction suffix absent.2

theorem suffix_dropWhile (drops : Char → Bool) {head : Char} {tail text : List Char}
    (suffix : head :: tail <:+ text) (kept : drops head = false) :
    head :: tail <:+ text.dropWhile drops := by
  rw [← List.takeWhile_append_dropWhile (p := drops) (l := text)] at suffix
  refine suffix_of_suffix_append suffix fun taken => ?_
  rw [List.mem_takeWhile_imp taken] at kept
  cases kept

theorem dropWhile_append_of_suffix {head : Char} {tail text : List Char} {drops : Char → Bool}
    (suffix : head :: tail <:+ text) (kept : drops head = false) (more : List Char) :
    (text ++ more).dropWhile drops = text.dropWhile drops ++ more := by
  have filled : (text.dropWhile drops).isEmpty = false := by
    have left := suffix_dropWhile drops suffix kept
    cases equal : text.dropWhile drops with
    | nil =>
        rw [equal] at left
        cases List.suffix_nil.mp left
    | cons => rfl
  rw [List.dropWhile_append, filled]
  rfl

def IsDirectory (text : List Char) : Prop :=
  ∃ first steps, first.isAlpha ∧ '/' :: first :: (steps ++ ['/']) <:+ text

def isKept (char : Char) : Bool := char != '\t' && char != '\n' && char != '\r'

theorem cleaned_of_suffix {text : List Char} {last : Char} (suffix : [last] <:+ text)
    (visible : ¬ last.toNat ≤ 0x20) :
    cleaned text = (text.dropWhile fun char => char.toNat ≤ 0x20).filter isKept := by
  rcases suffix_dropWhile (fun char => char.toNat ≤ 0x20) suffix
    (decide_eq_false visible) with ⟨front, equal⟩
  rw [cleaned, ← equal, List.reverse_append, List.reverse_singleton, List.singleton_append,
    List.dropWhile_cons_of_neg (by simpa using visible), List.reverse_cons, List.reverse_reverse]
  rfl

theorem IsDirectory.ends {text : List Char} (directory : IsDirectory text) :
    ['/'] <:+ text := by
  rcases directory with ⟨first, steps, -, suffix⟩
  exact List.IsSuffix.trans ⟨'/' :: first :: steps, rfl⟩ suffix

theorem IsDirectory.cleaned {text : List Char} (directory : IsDirectory text) :
    IsDirectory (cleaned text) := by
  rw [cleaned_of_suffix directory.ends (by decide)]
  rcases directory with ⟨first, steps, letter, suffix⟩
  refine ⟨first, steps.filter isKept, letter, ?_⟩
  have kept : isKept first = true := by
    rw [isKept, Bool.and_eq_true, Bool.and_eq_true, bne_iff_ne, bne_iff_ne, bne_iff_ne]
    refine ⟨⟨?_, ?_⟩, ?_⟩ <;> (rintro rfl; exact absurd letter (by decide))
  have filtered := (suffix_dropWhile (fun char => char.toNat ≤ 0x20) suffix
    (by decide)).filter isKept
  rw [List.filter_cons_of_pos (by decide), List.filter_cons_of_pos kept, List.filter_append]
    at filtered
  exact filtered

theorem IsDirectory.cleaned_append {text more : List Char} {last : Char}
    (directory : IsDirectory text) (suffix : [last] <:+ more) (visible : ¬ last.toNat ≤ 0x20) :
    Url.cleaned (text ++ more) = Url.cleaned text ++ more.filter isKept := by
  rw [cleaned_of_suffix directory.ends (by decide),
    cleaned_of_suffix (suffix.trans (List.suffix_append _ _)) visible,
    dropWhile_append_of_suffix directory.ends (by decide), List.filter_append]

theorem IsDirectory.of_scheme? {text scheme rest : List Char}
    (directory : IsDirectory text) (read : scheme? text = some (scheme, rest)) :
    IsDirectory rest := by
  rcases directory with ⟨first, steps, letter, suffix⟩
  rcases exists_of_scheme?_eq_some read with ⟨before, rfl, absent⟩
  refine ⟨first, steps, letter, ?_⟩
  rw [List.append_cons before] at suffix
  refine suffix_of_suffix_append suffix ?_
  simpa using absent

def asSlash (char : Char) : Char := if char = '\\' then '/' else char

/-- What an address of the web is read from behind its scheme and the slashes there. -/
def fromHost (text : List Char) : List Char :=
  (text.map asSlash).dropWhile (· == '/')

theorem authorityAndPath?_web {scheme : String} (web : isWeb scheme = true) (text : List Char) :
    authorityAndPath? scheme text =
      (authority? scheme ((fromHost text).takeWhile (· != '/'))).map fun authority =>
        (some authority, pathOf ((fromHost text).dropWhile (· != '/'))) := by
  have behind : ∀ text : List Char, text.drop (text.takeWhile (· != '/')).length =
      text.dropWhile (· != '/') := by
    intro text
    have behind : (text.takeWhile (· != '/') ++ text.dropWhile (· != '/')).drop
        (text.takeWhile (· != '/')).length = text.dropWhile (· != '/') := List.drop_left
    rwa [List.takeWhile_append_dropWhile] at behind
  unfold authorityAndPath?
  rw [if_pos web, ← behind, Option.map_eq_bind]
  rfl

theorem IsDirectory.suffix_fromHost {text : List Char} (directory : IsDirectory text) :
    ∃ first steps, (first == '/') = false ∧ first :: (steps ++ ['/']) <:+ text.map asSlash := by
  rcases directory with ⟨first, steps, letter, suffix⟩
  have notSlash : first ≠ '/' ∧ first ≠ '\\' := by
    constructor <;> (rintro rfl; exact absurd letter (by decide))
  have suffix := (List.IsSuffix.trans (List.suffix_cons _ _) suffix).map asSlash
  rw [List.map_cons, List.map_append, asSlash, if_neg notSlash.2] at suffix
  exact ⟨first, steps.map asSlash, beq_eq_false_iff_ne.mpr notSlash.1, suffix⟩

theorem IsDirectory.fromHost_append {text : List Char} (directory : IsDirectory text)
    (more : List Char) :
    (fromHost (text ++ more)).takeWhile (· != '/') = (fromHost text).takeWhile (· != '/') ∧
      (fromHost (text ++ more)).dropWhile (· != '/') =
        (fromHost text).dropWhile (· != '/') ++ more.map asSlash ∧
      ['/'] <:+ (fromHost text).dropWhile (· != '/') := by
  rcases directory.suffix_fromHost with ⟨first, steps, notSlash, suffix⟩
  have whole : fromHost (text ++ more) = fromHost text ++ more.map asSlash := by
    rw [fromHost, List.map_append, dropWhile_append_of_suffix suffix notSlash]
    rfl
  have ends : ['/'] <:+ fromHost text :=
    List.IsSuffix.trans ⟨first :: steps, rfl⟩
      (suffix_dropWhile (· == '/') suffix notSlash)
  have below := suffix_dropWhile (· != '/') ends (by decide)
  refine ⟨?_, ?_, below⟩
  · -- There is a slash behind the host, so that the host is over before `more`.
    have shorter : ((fromHost text).takeWhile (· != '/')).length ≠ (fromHost text).length := by
      have lengths := congrArg List.length
        (List.takeWhile_append_dropWhile (p := (· != '/')) (l := fromHost text))
      have filled := below.length_le
      rw [List.length_append] at lengths
      rw [List.length_singleton] at filled
      omega
    rw [whole, List.takeWhile_append, if_neg shorter]
  · rw [whole, dropWhile_append_of_suffix ends (by decide)]

/-! Addresses that go on. -/

def readBehind (scheme : String) (rest : List Char) : Option Url := do
  let (rest, fragment) := cutAt '#' rest
  let (rest, query) := cutAt '?' rest
  let (authority, path) ← authorityAndPath? scheme rest
  return {
    scheme
    authority := authority.map String.ofList
    path := String.ofList path
    query := query.map fun query => String.ofList (encode (codedInQuery (isWeb scheme)) query)
    fragment := fragment.map fun fragment => String.ofList (encode codedInFragment fragment) }

theorem read_eq (text : String) :
    read text = (scheme? (cleaned text.toList)).bind fun (scheme, rest) =>
      readBehind (String.ofList scheme) rest :=
  rfl

/-- The address goes on from the other: on the same host, and with a name as the next step. -/
structure GoesOn (home url : Url) (more : List Char) : Prop where
  scheme : url.scheme = home.scheme
  authority : url.authority = home.authority
  step : IsName more → ∃ isCoded, (∀ char, isPlain char = true → isCoded char = false) ∧
    url.render = home.render ++ String.ofList (encode isCoded more)

theorem IsName.map_asSlash {text : List Char} (name : IsName text) :
    text.map asSlash = text := by
  have kept : ∀ char ∈ text, asSlash char = char :=
    fun char held => if_neg (name.undivided char held).2.1
  rw [List.map_congr_left kept, List.map_id']

theorem goesOn_of_fragment {scheme : String} {rest before fragment more : List Char} {url : Url}
    (cut : cutAt '#' rest = (before, some fragment))
    (read : readBehind scheme (rest ++ more) = some url) :
    ∃ home, readBehind scheme rest = some home ∧ GoesOn home url more := by
  simp only [readBehind, cutAt_append_of_cut cut more, cut] at read ⊢
  rcases Option.bind_eq_some_iff.mp read with ⟨parts, held, built⟩
  cases built
  rw [held]
  refine ⟨_, rfl, rfl, rfl, fun name => ⟨codedInFragment, not_codedInFragment_of_isPlain, ?_⟩⟩
  simp only [render, Option.map_some, Option.getD_some, encode_append, String.ofList_append,
    String.append_assoc]

theorem goesOn_of_query {scheme : String} {rest before query more : List Char} {url : Url}
    (uncut : cutAt '#' rest = (rest, none)) (cut : cutAt '?' rest = (before, some query))
    (read : readBehind scheme (rest ++ more) = some url) :
    ∃ home, readBehind scheme rest = some home ∧ GoesOn home url more := by
  simp only [readBehind, (cutAt_append_of_uncut uncut more).2, cutAt_append_of_cut cut, uncut,
    cut] at read ⊢
  rcases Option.bind_eq_some_iff.mp read with ⟨parts, held, built⟩
  cases built
  rw [held]
  refine ⟨_, rfl, rfl, rfl, fun name =>
    ⟨codedInQuery (isWeb scheme), not_codedInQuery_of_isPlain _, ?_⟩⟩
  simp only [render, name.cutAt_fragment, Option.map_some, Option.map_none, Option.getD_some,
    Option.getD_none, String.append_empty, encode_append, String.ofList_append,
    String.append_assoc]

theorem goesOn_of_path {scheme : String} {rest more : List Char} {url : Url}
    (web : isWeb scheme = true) (directory : IsDirectory rest)
    (unended : cutAt '#' rest = (rest, none)) (uncut : cutAt '?' rest = (rest, none))
    (read : readBehind scheme (rest ++ more) = some url) :
    ∃ home, readBehind scheme rest = some home ∧ GoesOn home url more := by
  simp only [readBehind, (cutAt_append_of_uncut unended more).2,
    (cutAt_append_of_uncut uncut (cutAt '#' more).1).2, unended, uncut,
    authorityAndPath?_web web] at read ⊢
  rcases directory.fromHost_append (cutAt '?' (cutAt '#' more).1).1 with ⟨host, below, ends⟩
  rw [host, below] at read
  rcases Option.bind_eq_some_iff.mp read with ⟨_, mapped, built⟩
  rcases Option.map_eq_some_iff.mp mapped with ⟨authority, held, rfl⟩
  cases built
  rw [held]
  refine ⟨_, rfl, rfl, rfl, fun name => ⟨codedInPath, not_codedInPath_of_isPlain, ?_⟩⟩
  simp only [render, name.cutAt_fragment, name.cutAt_query, name.map_asSlash,
    name.pathOf_append ends, Option.map_none, Option.getD_none, String.append_empty,
    String.ofList_append, String.append_assoc]

theorem goesOn_readBehind {scheme : String} {rest more : List Char} {url : Url}
    (web : isWeb scheme = true) (directory : IsDirectory rest)
    (read : readBehind scheme (rest ++ more) = some url) :
    ∃ home, readBehind scheme rest = some home ∧ GoesOn home url more := by
  -- What follows becomes part of the path, the query or the fragment.
  rcases cut : cutAt '#' rest with ⟨before, _ | fragment⟩
  · rcases cutAt_append_of_uncut cut [] with ⟨rfl, -⟩
    rcases asked : cutAt '?' before with ⟨front, _ | query⟩
    · rcases cutAt_append_of_uncut asked [] with ⟨rfl, -⟩
      exact goesOn_of_path web directory cut asked read
    · exact goesOn_of_query cut asked read
  · exact goesOn_of_fragment cut read

theorem scheme_of_readBehind {scheme : String} {rest : List Char} {url : Url}
    (read : readBehind scheme rest = some url) : url.scheme = scheme := by
  rw [readBehind] at read
  simp only [Option.bind_eq_bind, Option.bind_eq_some_iff] at read
  rcases read with ⟨_, _, built⟩
  cases built
  rfl

/-- An address of the web goes on from the directory that it starts with. -/
theorem goesOn_read {text more : String} {last : Char} {url : Url}
    (directory : IsDirectory text.toList) (suffix : [last] <:+ more.toList)
    (visible : ¬ last.toNat ≤ 0x20) (read : Url.read (text ++ more) = some url)
    (web : isWeb url.scheme = true) :
    ∃ home, Url.read text = some home ∧ GoesOn home url (more.toList.filter isKept) := by
  have slash : '/' ∈ cleaned text.toList :=
    directory.cleaned.ends.subset (List.mem_singleton_self _)
  rw [read_eq, String.toList_append, directory.cleaned_append suffix visible,
    scheme?_append slash] at read
  rw [read_eq]
  rcases Option.bind_eq_some_iff.mp read with ⟨_, longer, behind⟩
  rcases Option.map_eq_some_iff.mp longer with ⟨⟨scheme, rest⟩, found, rfl⟩
  rw [scheme_of_readBehind behind] at web
  rw [found]
  exact goesOn_readBehind web (directory.cleaned.of_scheme? found) behind

end Url

end ChatGateway
