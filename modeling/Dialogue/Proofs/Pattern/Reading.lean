import Dialogue.Pattern.MatchTest

/-!
# Reading the expression of a pattern

The replacements of a pattern's symbols, made one after another, are one replacement of each character;
and when nothing else in the pattern has a meaning of its own, the expression is read as one part for
each character.
-/

namespace Dialogue

/-! ## One replacement for each character -/

/-- The expression text of one character of a pattern. -/
def substitute (c : Char) : List Char :=
  match Wildcard.all.find? (·.symbol = c) with
  | some w => w.expression.toList
  | none => if c = ' ' then spaceExpression else [c]

/-- No symbol is in what was put in before its turn, and there is no space in what is put in for any. -/
theorem Wildcard.symbol_notMem_expression :
    (all.Pairwise fun w w' => w'.symbol ∉ w.expression.toList) ∧ ∀ w ∈ all, ' ' ∉ w.expression.toList := by
  decide

theorem replaceChar_of_notMem {c : Char} {replacement cs : List Char} (h : c ∉ cs) :
    replaceChar c replacement cs = cs := by
  induction cs with
  | nil => rfl
  | cons x cs ih =>
      rw [List.mem_cons, not_or] at h
      rw [replaceChar, List.flatMap_cons, if_neg (Ne.symm h.1)]
      exact congrArg (x :: ·) (ih h.2)

theorem foldl_replaceChar_of_notMem {ws : List Wildcard} {cs : List Char} (h : ∀ w ∈ ws, w.symbol ∉ cs) :
    ws.foldl (fun cs w => replaceChar w.symbol w.expression.toList cs) cs = cs := by
  induction ws with
  | nil => rfl
  | cons w ws ih =>
      rcases List.forall_mem_cons.mp h with ⟨hw, hws⟩
      rw [List.foldl_cons, replaceChar_of_notMem hw]
      exact ih hws

/-- Wildcards that are replaced one after another are replaced all at once, if no symbol is in what was put
in before its turn. -/
theorem foldl_replaceChar {ws : List Wildcard}
    (h : ws.Pairwise fun w w' => w'.symbol ∉ w.expression.toList) (cs : List Char) :
    ws.foldl (fun cs w => replaceChar w.symbol w.expression.toList cs) cs =
      cs.flatMap fun c => ((ws.find? (·.symbol = c)).map (·.expression.toList)).getD [c] := by
  induction ws generalizing cs with
  | nil => simp
  | cons w ws ih =>
      rcases List.pairwise_cons.mp h with ⟨hw, hws⟩
      rw [List.foldl_cons, ih hws, replaceChar, List.flatMap_assoc]
      congr 1
      funext c
      by_cases hc : w.symbol = c
      · -- The other wildcards find nothing to replace in what was put in for this one.
        rw [if_pos hc.symm, List.find?_cons_of_pos (by simpa using hc), ← ih hws]
        exact foldl_replaceChar_of_notMem hw
      · rw [if_neg (Ne.symm hc), List.find?_cons_of_neg (by simpa using hc), List.flatMap_singleton]

theorem replaceSymbols_eq_flatMap (cs : List Char) : replaceSymbols cs = cs.flatMap substitute := by
  rcases Wildcard.symbol_notMem_expression with ⟨hall, hspace⟩
  rw [replaceSymbols, foldl_replaceChar hall, replaceChar, List.flatMap_assoc]
  congr 1
  funext c
  rw [substitute]
  cases hfound : Wildcard.all.find? (·.symbol = c) with
  | some w => exact replaceChar_of_notMem (hspace w (List.mem_of_find?_eq_some hfound))
  | none => exact List.flatMap_singleton ..

/-! ## The parts that are read -/

/-- A character that stands for itself in a pattern. -/
def isPlain (c : Char) : Bool :=
  !" \\.+*?()|[]{}^$#_".toList.contains c

/-- A character that stands for itself, a space, or the symbol of a wildcard. -/
def isPlainOrSymbol (c : Char) : Bool :=
  isPlain c || c = ' ' || Wildcard.all.any (·.symbol = c)

/-- Any character but a line feed. -/
def inLine : CharSet := ⟨[(0, 9), (11, CharSet.top)]⟩

/-- The part that is read from the expression text of one character of a pattern. -/
def partOf (c : Char) : Expression.Part :=
  match Wildcard.all.find? (·.symbol = c) with
  | some .oneOrMore | some .oneOrMoreHighest =>
    { expression := .many (.one inLine) 1 none false, depth := 1 }
  | some .zeroOrMore | some .zeroOrMoreHighest =>
    { expression := .many (.one inLine) 0 none false, depth := 1 }
  | none =>
    if c = ' ' then { expression := .many (.one Text.blank) 0 none false, depth := 1 }
    else { expression := .one (.single c) }

theorem isPlainOrSymbol_cases {c : Char} (h : isPlainOrSymbol c) :
    isPlain c ∨ c = ' ' ∨ c = '*' ∨ c = '_' ∨ c = '^' ∨ c = '#' := by
  simp only [isPlainOrSymbol, Wildcard.all, Wildcard.symbol, List.any_cons, List.any_nil,
    Bool.or_eq_true, decide_eq_true_eq, Bool.or_false, or_assoc, eq_comm (b := c)] at h
  exact h

theorem isPlain_iff {c : Char} : isPlain c ↔ c ∉ " \\.+*?()|[]{}^$#_".toList := by
  simp only [isPlain, Bool.not_eq_true', List.contains_eq_mem, decide_eq_false_iff_not]

theorem find?_symbol_of_isPlain {c : Char} (h : isPlain c) :
    Wildcard.all.find? (·.symbol = c) = none := by
  rw [List.find?_eq_none]
  intro w _ hw
  refine isPlain_iff.mp h ?_
  cases of_decide_eq_true hw
  cases w <;> decide

theorem substitute_of_isPlain {c : Char} (h : isPlain c) : substitute c = [c] := by
  have hspace : c ≠ ' ' := by rintro rfl; exact absurd h (by decide)
  rw [substitute, find?_symbol_of_isPlain h]
  exact if_neg hspace

theorem partOf_of_isPlain {c : Char} (h : isPlain c) :
    partOf c = { expression := .one (.single c) } := by
  have hspace : c ≠ ' ' := by rintro rfl; exact absurd h (by decide)
  rw [partOf, find?_symbol_of_isPlain h]
  exact if_neg hspace

namespace Expression

variable {p p' : Progress} {c : Char} {cs rest : List Char}

theorem readItems_cons (hx : p.flags.extended = false) (h : readItem p c cs = some (p', rest)) :
    readItems p (c :: cs) = readItems p' rest := by
  rw [readItems]
  split
  · next hs => simp [skip, hx] at hs
  · next hs =>
      simp only [skip, hx, Bool.false_eq_true, ↓reduceIte, List.cons.injEq] at hs
      obtain ⟨rfl, rfl⟩ := hs
      split
      · next hn => rw [h] at hn; cases hn
      · next hn =>
          rw [h] at hn
          cases hn
          rfl

theorem readItem_of_isPlain (hp : p.flags = {}) (h : isPlain c) :
    readItem p c cs = some (p.pushSet (.single c), cs) := by
  unfold readItem
  split <;> first | exact absurd h (by decide) | skip
  simp [Progress.pushAtom?, Flags.literal?, Flags.closed, hp]

/-- No mark can stand behind a part of a pattern. -/
theorem readMark_of_ne (h : cs.head? ≠ some '?') : readMark cs = (false, cs) := by
  unfold readMark
  split
  · exact absurd rfl h
  · rfl

theorem readRepeat_of_ne {items : List Part} {min : Nat} {max : Option Nat} (part : Part)
    (hp : p.flags = {}) (hi : p.items = part :: items) (hr : part.repeatable)
    (h : cs.head? ≠ some '?') :
    readRepeat p min max cs =
      some ({ p with items :=
        { expression := .many part.expression min max false, depth := part.depth + 1 } :: items },
        cs) := by
  simp [readRepeat, readMark_of_ne h, Progress.repeat?, hi, hr, hp]

theorem readItems_dot (hp : p.flags = {}) :
    readItems p ('.' :: cs) = readItems (p.pushSet inLine) cs := by
  refine readItems_cons (by rw [hp]) ?_
  simp only [readItem, hp]
  rfl

theorem readItems_blank (hp : p.flags = {}) :
    readItems p ('\\' :: 's' :: cs) = readItems (p.pushSet Text.blank) cs := by
  refine readItems_cons (by rw [hp]) ?_
  have hs : readEscape {} ('s' :: cs) = some (.set Text.blank, cs) := rfl
  simp only [readItem, hp, hs]
  rfl

/-- The text of one character is read as its part. -/
theorem readItems_substitute (hp : p.flags = {}) (hc : isPlainOrSymbol c)
    (hr : rest.head? ≠ some '?') :
    readItems p (substitute c ++ rest) = readItems (p.push (partOf c)) rest := by
  have hx : p.flags.extended = false := by rw [hp]
  have hstar (s : CharSet) : readItem (p.pushSet s) '*' rest =
      some (p.push { expression := .many (.one s) 0 none false, depth := 1 }, rest) :=
    readRepeat_of_ne (p := p.pushSet s) { expression := .one s } hp rfl rfl hr
  have hplus (s : CharSet) : readItem (p.pushSet s) '+' rest =
      some (p.push { expression := .many (.one s) 1 none false, depth := 1 }, rest) :=
    readRepeat_of_ne (p := p.pushSet s) { expression := .one s } hp rfl rfl hr
  rcases isPlainOrSymbol_cases hc with h | rfl | rfl | rfl | rfl | rfl
  · rw [substitute_of_isPlain h, partOf_of_isPlain h]
    exact readItems_cons hx (readItem_of_isPlain hp h)
  · exact (readItems_blank hp).trans (readItems_cons hx (hstar _))
  · exact (readItems_dot hp).trans (readItems_cons hx (hplus _))
  · exact (readItems_dot hp).trans (readItems_cons hx (hplus _))
  · exact (readItems_dot hp).trans (readItems_cons hx (hstar _))
  · exact (readItems_dot hp).trans (readItems_cons hx (hstar _))

theorem head?_substitute (hc : isPlainOrSymbol c) : (substitute c ++ rest).head? ≠ some '?' := by
  rcases isPlainOrSymbol_cases hc with h | rfl | rfl | rfl | rfl | rfl
  · rw [substitute_of_isPlain h]
    rintro ⟨⟩
    exact absurd h (by decide)
  all_goals exact fun hn => absurd (Option.some.inj hn) (by decide)

theorem head?_flatMap_substitute (hcs : ∀ c ∈ cs, isPlainOrSymbol c) (hr : rest.head? ≠ some '?') :
    (cs.flatMap substitute ++ rest).head? ≠ some '?' := by
  cases cs with
  | nil => exact hr
  | cons c cs =>
      rw [List.flatMap_cons, List.append_assoc]
      exact head?_substitute (hcs c List.mem_cons_self)

/-- The text of a pattern is read as the parts of its characters, in a row. -/
theorem readItems_flatMap_substitute (hp : p.flags = {}) (hcs : ∀ c ∈ cs, isPlainOrSymbol c)
    (hr : rest.head? ≠ some '?') :
    readItems p (cs.flatMap substitute ++ rest) =
      readItems { p with items := (cs.map partOf).reverse ++ p.items } rest := by
  induction cs generalizing p with
  | nil => rfl
  | cons c cs ih =>
      have hcs' : ∀ c ∈ cs, isPlainOrSymbol c := fun c hc => hcs c (List.mem_cons_of_mem _ hc)
      rw [List.flatMap_cons, List.append_assoc,
        readItems_substitute hp (hcs c List.mem_cons_self) (head?_flatMap_substitute hcs' hr),
        ih (p := p.push (partOf c)) hp hcs']
      simp [Progress.push]

/-! ## Parts in a row -/

theorem Part.expression_join {make : List Expression → Expression} (hone : ∀ e, make [e] = e)
    (parts : List Part) : (Part.join make parts).expression = make (parts.map (·.expression)) := by
  unfold Part.join
  split
  · exact (hone _).symm
  · rfl
  · rfl

theorem Part.depth_join (make : List Expression → Expression) {parts : List Part} {d : Nat}
    (h : ∀ p ∈ parts, p.depth ≤ d) : (Part.join make parts).depth ≤ d + 1 := by
  unfold Part.join
  split
  · next p => exact Nat.le_succ_of_le (h p List.mem_cons_self)
  · exact Nat.zero_le _
  · refine Nat.succ_le_succ (List.foldlRecOn (motive := (· ≤ d)) _ _ (Nat.zero_le d) ?_)
    intro m hm n hn
    obtain ⟨p, hp, rfl⟩ := List.mem_map.mp hn
    exact Nat.max_le.mpr ⟨hm, h p hp⟩

theorem depth_partOf (c : Char) : (partOf c).depth ≤ 1 := by
  unfold partOf
  split
  · exact Nat.le_refl _
  · exact Nat.le_refl _
  · exact Nat.le_refl _
  · exact Nat.le_refl _
  · split
    · exact Nat.le_refl _
    · exact Nat.zero_le _

/-- The expression of a pattern's characters between its anchors. -/
def ofPattern (cs : List Char) : Expression :=
  .seq (.look .start) (.seq (.group none (ofList (cs.map fun c => (partOf c).expression)))
    (.look .stop))

/-- The anchored text of a pattern is read as the expression of its characters. -/
theorem read_anchored (hcs : ∀ c ∈ cs, isPlainOrSymbol c) :
    read (anchored (cs.flatMap substitute)) = some (ofPattern cs) := by
  let p₁ : Progress := ({} : Progress).pushLook .start
  let p₂ : Progress := p₁.enter {}
  let inner : Part := Part.choice [Part.sequence (cs.map partOf).reverse]
  let group : Part := { expression := .group none inner.expression, depth := inner.depth + 1 }
  have hread :=
    calc readItems {} (anchored (cs.flatMap substitute))
      _ = readItems p₁ ('(' :: '?' :: ':' :: (cs.flatMap substitute ++ [')', '$'])) :=
        readItems_cons rfl rfl
      _ = readItems p₂ (cs.flatMap substitute ++ [')', '$']) := readItems_cons rfl rfl
      _ = readItems { p₂ with items := (cs.map partOf).reverse } [')', '$'] := by
        rw [readItems_flatMap_substitute rfl hcs (by decide)]
        simp [p₂, Progress.enter]
      _ = readItems (p₁.push group) ['$'] := readItems_cons rfl rfl
      _ = readItems ((p₁.push group).pushLook .stop) [] := readItems_cons rfl rfl
      _ = some ((p₁.push group).pushLook .stop) := by
        rw [readItems]
        rfl
  have hdepth : inner.depth ≤ 2 := by
    refine Part.depth_join ofList fun p hp => ?_
    simp only [List.reverse_reverse, List.mem_map] at hp
    obtain ⟨c, _, rfl⟩ := hp
    exact depth_partOf c
  have hexpression : inner.expression = ofList (cs.map fun c => (partOf c).expression) := by
    change (Part.join ofList (cs.map partOf).reverse.reverse).expression = _
    rw [Part.expression_join (fun _ => rfl), List.reverse_reverse, List.map_map]
    rfl
  have hshallow : ((p₁.push group).pushLook .stop).group.depth ≤ maxDepth := by
    change max (max (max 0 0) (inner.depth + 1)) 0 + 1 ≤ 250
    omega
  rw [read, hread]
  refine (if_pos (Bool.and_eq_true_iff.mpr ⟨rfl, decide_eq_true hshallow⟩)).trans ?_
  rw [ofPattern, ← hexpression]
  rfl

end Expression

end Dialogue
