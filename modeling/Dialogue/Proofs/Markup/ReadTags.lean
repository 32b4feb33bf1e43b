import Dialogue.Proofs.Markup.Tags

/-!
# What reading gives: tags

A tag ends at the first `>` outside its quotes, so what was read as a tag closes its quotes. Its name has
no white space, and its keys are keys and distinct.
-/

namespace Dialogue.Markup

/-! ## Quotes -/

/-- From the quote that is open, every quote is closed, and no `>` stands between quotes. -/
def closesQuotes : Option Char → List Char → Bool
  | q, [] => q.isNone
  | none, c :: cs => c ≠ '>' && closesQuotes (if c = '"' ∨ c = '\'' then some c else none) cs
  | some q, c :: cs => closesQuotes (if c = q then none else some q) cs

theorem closesQuotes_of_splitTag {q : Option Char} {cs content rest : List Char}
    (h : splitTag q cs = some (content, rest)) :
    closesQuotes q content ∧ cs = content ++ '>' :: rest := by
  fun_induction splitTag q cs generalizing content with
  | case1 => cases h
  | case2 cs =>
      cases h
      exact ⟨rfl, rfl⟩
  | case3 c cs hc ih =>
      obtain ⟨r, hr, he⟩ := Option.map_eq_some_iff.mp h
      cases he
      obtain ⟨hq, rfl⟩ := ih hr
      exact ⟨by simp [closesQuotes, hc, hq], rfl⟩
  | case4 q c cs ih =>
      obtain ⟨r, hr, he⟩ := Option.map_eq_some_iff.mp h
      cases he
      obtain ⟨hq, rfl⟩ := ih hr
      exact ⟨hq, rfl⟩

theorem splitTag_of_closesQuotes {q : Option Char} {cs : List Char} (h : closesQuotes q cs)
    (rest : List Char) :
    splitTag q (cs ++ rest) = (splitTag none rest).map fun r => (cs ++ r.1, r.2) := by
  fun_induction closesQuotes q cs with
  | case1 q =>
      obtain rfl : q = none := by simpa using h
      simp
  | case2 c cs ih =>
      simp only [Bool.and_eq_true, decide_eq_true_eq] at h
      rw [List.cons_append, splitTag, if_neg h.1, ih h.2, Option.map_map]
      rfl
  | case3 q c cs ih =>
      rw [List.cons_append, splitTag, ih h, Option.map_map]
      rfl

theorem passes_iff {cs : List Char} : Passes cs ↔ closesQuotes none cs := by
  constructor
  · intro h
    exact (closesQuotes_of_splitTag (h.splitTag [])).1
  · intro h rest
    exact splitTag_of_closesQuotes h rest

/-- Only quotes close quotes. -/
theorem closesQuotes_of_append {q : Option Char} {cs more : List Char}
    (hq : ∀ c ∈ q, c = '"' ∨ c = '\'') (hmore : ∀ c ∈ more, c ≠ '"' ∧ c ≠ '\'')
    (h : closesQuotes q (cs ++ more)) : closesQuotes q cs := by
  induction cs generalizing q with
  | nil =>
      cases q with
      | none => rfl
      | some q =>
          induction more with
          | nil => exact h
          | cons c more ih =>
              obtain ⟨hc, hmore⟩ := List.forall_mem_cons.mp hmore
              have hne : c ≠ q := by
                rintro rfl
                obtain rfl | rfl := hq c rfl
                · exact hc.1 rfl
                · exact hc.2 rfl
              simp only [List.nil_append, closesQuotes, if_neg hne] at h ih
              exact ih hmore h
  | cons c cs ih =>
      cases q with
      | none =>
          simp only [List.cons_append, closesQuotes, Bool.and_eq_true] at h ⊢
          refine ⟨h.1, ih ?_ h.2⟩
          intro d hd
          split at hd
          · next hquote =>
              cases hd
              exact hquote
          · cases hd
      | some q =>
          simp only [List.cons_append, closesQuotes] at h ⊢
          refine ih ?_ h
          intro d hd
          split at hd
          · cases hd
          · exact hq d hd

/-! ## Names of tags -/

theorem exists_closingName_append (content : List Char) :
    ∃ gaps, content = closingName content ++ gaps ∧ ∀ c ∈ gaps, isGap c := by
  unfold closingName
  split
  · exact ⟨[], (List.append_nil content).symm, List.forall_mem_nil _⟩
  · refine ⟨(content.reverse.takeWhile isGap).reverse, ?_, fun c hc => ?_⟩
    · rw [← List.reverse_append, List.takeWhile_append_dropWhile, List.reverse_reverse]
    · exact List.all_eq_true.mp List.all_takeWhile c (List.mem_reverse.mp hc)

theorem closesQuotes_closingName {content : List Char} (h : closesQuotes none content) :
    closesQuotes none (closingName content) := by
  obtain ⟨gaps, hcontent, hgaps⟩ := exists_closingName_append content
  have hmore : ∀ c ∈ gaps, c ≠ '"' ∧ c ≠ '\'' := by
    intro c hc
    constructor
    · rintro rfl
      exact absurd (hgaps _ hc) (by decide)
    · rintro rfl
      exact absurd (hgaps _ hc) (by decide)
  rw [hcontent] at h
  exact closesQuotes_of_append (by simp) hmore h

theorem splitClose_eq_some {ends : List Char → Bool} {seen cs content rest : List Char}
    (h : splitClose ends seen cs = some (content, rest)) :
    seen.reverse ++ cs = content ++ '>' :: rest ∧ ends content.reverse := by
  fun_induction splitClose ends seen cs with
  | case1 => cases h
  | case2 seen c cs hc =>
      cases h
      obtain ⟨rfl, hends⟩ := hc
      rw [List.reverse_reverse]
      exact ⟨rfl, hends⟩
  | case3 seen c cs hc ih =>
      obtain ⟨hcs, hends⟩ := ih h
      rw [List.reverse_cons, List.append_assoc] at hcs
      exact ⟨hcs, hends⟩

theorem delimited_cases {ends : List Char → Bool} {fault : SyntaxFault}
    {check : List Char → Except ReadFault Event} {c : Char} {cs rest : List Char} {event : Event}
    (h : delimited ends fault check c cs = .ok (event, rest)) :
    ∃ content, c :: cs = content ++ '>' :: rest ∧ ends content.reverse ∧ check content = .ok event := by
  rw [delimited] at h
  split at h
  · cases h
  · next content _ hsplit =>
      cases hcheck : check content with
      | error f =>
          rw [hcheck] at h
          cases h
      | ok e =>
          rw [hcheck] at h
          cases h
          obtain ⟨hcs, hends⟩ := splitClose_eq_some hsplit
          exact ⟨content, hcs, hends, hcheck⟩

theorem checkDoctype_eq_ok {content : List Char} {event : Event} (h : checkDoctype content = .ok event) :
    event = .aside := by
  unfold checkDoctype at h
  split at h
  · cases h
  · split at h
    · cases h
    · cases h
      rfl

theorem checkComment_eq_ok {content : List Char} {event : Event} (h : checkComment content = .ok event) :
    event = .aside := by
  unfold checkComment at h
  split at h
  · cases h
    rfl
  · cases h

theorem checkInstruction_eq_ok {content : List Char} {event : Event}
    (h : checkInstruction content = .ok event) : event = .aside := by
  unfold checkInstruction at h
  split at h
  · cases h
    rfl
  · cases h

theorem checkCdata_eq_ok {content : List Char} {event : Event} (h : checkCdata content = .ok event) :
    "![CDATA[".toList <+: content ∧ event = .cdata (content.drop 8).dropLast.dropLast := by
  unfold checkCdata at h
  split at h
  · next hopening =>
      cases h
      exact ⟨List.isPrefixOf_iff_prefix.mp hopening, rfl⟩
  · cases h

/-- What stands after a `<` is a section or without a meaning, or a closing tag, or another tag. -/
theorem readMarkup_cases {cs rest : List Char} {event : Event}
    (h : readMarkup cs = .ok (event, rest)) :
    ((∃ cs', cs = '!' :: cs' ∨ cs = '?' :: cs') ∧ ∃ content, cs = content ++ '>' :: rest ∧
        (event = .aside ∨ endsCdata content.reverse ∧ checkCdata content = .ok event)) ∨
      (∃ cs' content, cs = '/' :: cs' ∧ splitTag none cs' = some (content, rest) ∧
        event = .closing (closingName content)) ∨
      (∀ c ∈ cs.head?, c ∉ tagMarks) ∧ ∃ content, splitTag none cs = some (content, rest) ∧
        event = tagEvent content := by
  unfold readMarkup at h
  split at h
  · refine .inl ⟨⟨_, .inl rfl⟩, ?_⟩
    split at h
    · obtain ⟨content, hcs, hends, hcheck⟩ := delimited_cases h
      exact ⟨content, hcs, .inr ⟨hends, hcheck⟩⟩
    · obtain ⟨content, hcs, _, hcheck⟩ := delimited_cases h
      exact ⟨content, hcs, .inl (checkComment_eq_ok hcheck)⟩
    · obtain ⟨content, hcs, _, hcheck⟩ := delimited_cases h
      exact ⟨content, hcs, .inl (checkDoctype_eq_ok hcheck)⟩
    · obtain ⟨content, hcs, _, hcheck⟩ := delimited_cases h
      exact ⟨content, hcs, .inl (checkDoctype_eq_ok hcheck)⟩
    · cases h
  · obtain ⟨content, hcs, _, hcheck⟩ := delimited_cases h
    exact .inl ⟨⟨_, .inr rfl⟩, content, hcs, .inl (checkInstruction_eq_ok hcheck)⟩
  · split at h
    · cases h
    · next hsplit =>
        cases h
        exact .inr (.inl ⟨_, _, rfl, hsplit, rfl⟩)
  · next hbang hquery hslash =>
      split at h
      · cases h
      · next content _ hsplit =>
          cases h
          refine .inr (.inr ⟨fun c hc hmark => ?_, content, hsplit, rfl⟩)
          obtain ⟨cs', rfl⟩ := List.head?_eq_some_iff.mp hc
          simp only [tagMarks, List.mem_cons, List.not_mem_nil, or_false] at hmark
          obtain rfl | rfl | rfl := hmark
          · exact hbang cs' rfl
          · exact hquery cs' rfl
          · exact hslash cs' rfl

theorem tagEvent_cases (content : List Char) :
    (∃ cs, content = cs ++ ['/'] ∧ tagEvent content = .empty (.ofContent cs)) ∨
      content.getLast? ≠ some '/' ∧ tagEvent content = .opening (.ofContent content) := by
  by_cases hlast : content.getLast? = some '/'
  · obtain ⟨cs, rfl⟩ := List.getLast?_eq_some_iff.mp hlast
    exact .inl ⟨cs, rfl, tagEvent_slash cs⟩
  · exact .inr ⟨hlast, tagEvent_of_getLast? hlast⟩

/-- The name of a tag has no white space, and the tag begins with no mark. -/
structure Tag.IsRead (tag : Tag) : Prop where
  solid : ∀ c ∈ tag.name, isGap c = false
  unmarked : ∀ c ∈ tag.name.head?, c ∉ tagMarks

/-- What holds of every event of a reading. -/
def Event.IsRead : Event → Prop
  | .opening tag => tag.IsRead
  | .empty tag => tag.IsRead
  | .closing name => closesQuotes none name
  | .text _ => True
  | .cdata _ => True
  | .aside => True

theorem Tag.isRead_ofContent {content cs : List Char} (h : content <+: cs)
    (hcs : ∀ c ∈ cs.head?, c ∉ tagMarks) : (Tag.ofContent content).IsRead where
  solid c hc := by
    have hall := List.all_eq_true.mp List.all_takeWhile c hc
    simpa using hall
  unmarked c hc := by
    have hname : (Tag.ofContent content).name <+: cs := (List.takeWhile_prefix _).trans h
    obtain ⟨more, hmore⟩ := hname
    refine hcs c ?_
    rw [← hmore, List.head?_append, Option.mem_def.mp hc]
    rfl

theorem Event.isRead_of_readMarkup {cs rest : List Char} {event : Event}
    (h : readMarkup cs = .ok (event, rest)) : event.IsRead := by
  obtain ⟨_, _, _, rfl | ⟨_, hcheck⟩⟩ | ⟨cs', content, _, hsplit, rfl⟩ | ⟨hhead, content, hsplit, rfl⟩ :=
    readMarkup_cases h
  · trivial
  · rw [(checkCdata_eq_ok hcheck).2]
    trivial
  · exact closesQuotes_closingName (closesQuotes_of_splitTag hsplit).1
  · have hbegins : content <+: cs := ⟨_, (closesQuotes_of_splitTag hsplit).2.symm⟩
    obtain ⟨cs', rfl, htag⟩ | ⟨_, htag⟩ := tagEvent_cases content
    · rw [htag]
      exact Tag.isRead_ofContent ((List.prefix_append cs' ['/']).trans hbegins) hhead
    · rw [htag]
      exact Tag.isRead_ofContent hbegins hhead

/-! ## Attributes -/

theorem readValue_eq_ok_iff {size pos : Nat} {duplicate? : Option AttributeFault} {cs : List Char}
    {r : List Char × List Char} :
    readValue size pos duplicate? cs = .ok r ↔ duplicate? = none ∧
      ∃ afterEquals q afterQuote, cs.dropWhile isGap = '=' :: afterEquals ∧
        afterEquals.dropWhile isGap = q :: afterQuote ∧ (q = '"' ∨ q = '\'') ∧
        Text.splitAt? q afterQuote = some r := by
  constructor
  · intro h
    unfold readValue at h
    split at h
    · cases h
    · next c afterEquals hequals =>
        split at h
        · cases h
        · next hc =>
            obtain rfl := Decidable.not_not.mp hc
            split at h
            · cases h
            · split at h
              · cases h
              · next q afterQuote hquote =>
                  split at h
                  · cases h
                  · next hq =>
                      split at h
                      · cases h
                      · next hsplit =>
                          cases h
                          exact ⟨rfl, _, q, _, hequals, hquote, by grind, hsplit⟩
  · rintro ⟨rfl, afterEquals, q, afterQuote, hequals, hquote, hq, hsplit⟩
    have hq' : ¬ (q ≠ '"' ∧ q ≠ '\'') := by grind
    simp [readValue, hequals, hquote, hq', hsplit]

theorem dropWhile_append_of_eq_cons {p : Char → Bool} {cs tail : List Char} {c : Char}
    (h : cs.dropWhile p = c :: tail) (more : List Char) :
    (cs ++ more).dropWhile p = c :: (tail ++ more) := by
  rw [List.dropWhile_append, h]
  rfl

/-- A value that was read is read in the same way with more behind it. -/
theorem readValue_append {size pos : Nat} {cs value rest : List Char}
    (h : readValue size pos none cs = .ok (value, rest)) (size' pos' : Nat) (more : List Char) :
    readValue size' pos' none (cs ++ more) = .ok (value, rest ++ more) := by
  obtain ⟨_, afterEquals, q, afterQuote, hequals, hquote, hq, hsplit⟩ := readValue_eq_ok_iff.mp h
  exact readValue_eq_ok_iff.mpr ⟨rfl, afterEquals ++ more, q, afterQuote ++ more,
    dropWhile_append_of_eq_cons hequals more, dropWhile_append_of_eq_cons hquote more, hq,
    Text.splitAt?_append hsplit more⟩

/-- The attributes are at their end, or begin with one that has a key of its own. -/
theorem readAttributes_cases {size pos : Nat} {seen : List RawAttribute} {cs : List Char}
    {attributes : List (String × String)} (h : readAttributes size pos seen cs = .ok attributes) :
    cs.dropWhile isGap = [] ∧ attributes = [] ∨
      ∃ c tail start pos' value rest text others, cs.dropWhile isGap = c :: tail ∧
        (∀ b ∈ seen, b.key ≠ c :: tail.takeWhile (!endsKey ·)) ∧
        readValue size pos' none (tail.dropWhile (!endsKey ·)) = .ok (value, rest) ∧
        readAttributes size (size - byteCount rest)
          (⟨start, c :: tail.takeWhile (!endsKey ·), value⟩ :: seen) rest = .ok others ∧
        attributes = (String.ofList (c :: tail.takeWhile (!endsKey ·)), text) :: others := by
  rw [readAttributes] at h
  split at h
  · next hcs =>
      cases h
      exact .inl ⟨hcs, rfl⟩
  · next c tail hcs =>
      simp only at h
      split at h
      · cases h
      · next value rest hvalue =>
          have hnone := (readValue_eq_ok_iff.mp hvalue).1
          rw [hnone] at hvalue
          rw [Option.map_eq_none_iff, List.find?_eq_none] at hnone
          cases hdecode : decode value with
          | error fault =>
              rw [hdecode] at h
              cases h
          | ok text =>
              rw [hdecode] at h
              generalize hothers : readAttributes size (size - byteCount rest) _ rest = r at h
              cases r with
              | error fault => cases h
              | ok others =>
                  cases h
                  refine .inr ⟨c, tail, _, _, value, rest, _, others, hcs, fun b hb => ?_, hvalue,
                    hothers, rfl⟩
                  simpa using hnone b hb

theorem isKey_ofList {c : Char} (tail : List Char) (hc : isGap c = false) :
    isKey (String.ofList (c :: tail.takeWhile (!endsKey ·))) := by
  have hall : (tail.takeWhile (!endsKey ·)).all (!endsKey ·) = true := List.all_takeWhile
  simp only [isKey, String.toList_ofList, hc, hall]
  rfl

theorem isKey_of_readAttributes {size pos : Nat} {seen : List RawAttribute} {cs : List Char}
    {attributes : List (String × String)} (h : readAttributes size pos seen cs = .ok attributes) :
    (∀ a ∈ attributes, isKey a.1 ∧ ∀ b ∈ seen, b.key ≠ a.1.toList) ∧
      (attributes.map (·.1)).Nodup := by
  induction attributes generalizing pos seen cs with
  | nil => exact ⟨List.forall_mem_nil _, List.nodup_nil⟩
  | cons a attributes ih =>
      obtain ⟨_, he⟩ | ⟨c, tail, start, pos', value, rest, text, others, hcs, hnew, _, hothers, he⟩ :=
        readAttributes_cases h
      · cases he
      · cases he
        obtain ⟨hkeys, hdistinct⟩ := ih hothers
        have hc : isGap c = false := by
          have hhead := List.head?_dropWhile_not isGap cs
          rw [hcs] at hhead
          simpa using hhead
        refine ⟨List.forall_mem_cons.mpr ⟨⟨isKey_ofList tail hc, ?_⟩, fun b hb => ?_⟩, ?_⟩
        · simpa using hnew
        · obtain ⟨hkey, hseen⟩ := hkeys b hb
          exact ⟨hkey, (List.forall_mem_cons.mp hseen).2⟩
        · rw [List.map_cons, List.nodup_cons]
          refine ⟨fun hmem => ?_, hdistinct⟩
          obtain ⟨b, hb, hkey⟩ := List.mem_map.mp hmem
          have hne := (List.forall_mem_cons.mp (hkeys b hb).2).1
          exact hne (by rw [hkey, String.toList_ofList])

/-- The attributes of a tag have keys, each its own. -/
theorem Tag.IsRead.isTag {tag : Tag} (h : tag.IsRead) {attributes : List (String × String)}
    (ha : tag.attributes = .ok attributes) : IsTag (String.ofList tag.name) attributes := by
  obtain ⟨hkeys, hdistinct⟩ := isKey_of_readAttributes ha
  exact {
    solid := by rw [String.toList_ofList]; exact h.solid
    unmarked := by rw [String.toList_ofList]; exact h.unmarked
    keys := fun a ha => (hkeys a ha).1
    distinct := hdistinct }

end Dialogue.Markup
