import ValueShape.Proofs.Outline.Spacing

/-!
# The width of an outline

When the layout of an outline is broken: when the items of a container are too long for one line.

* `Outline.brackets?` are the brackets of a container that can be broken, and `Outline.itemTexts` are the
  texts between them.
* `Outline.IsWide n o` says that the items of such a container have more than `n` characters on one line.
* `Outline.lineFeed_mem_layout_iff` says that a layout has line feeds if and only if a container in it is
  wide, provided that no name has any.  A container is broken as soon as one of its items is, so the break
  of an innermost container spreads to all those around it.
* `Outline.layout_eq_always` says that a layout without line feeds is the one that it has if every line is
  short enough.
-/

set_option autoImplicit false

namespace ValueShape

/-! ## Items on one line

Layout decides by one comparison whether items are broken: that of the line with the limit, unless
one of them has several lines already. -/

/-- An item is not longer than a line that it stands on. -/
theorem length_le_oneLine {t : List Char} {texts : List (List Char)} (ht : t ∈ texts) :
    t.length ≤ (oneLine texts).length := by
  induction texts with
  | nil => exact absurd ht List.not_mem_nil
  | cons u us ih =>
    cases us with
    | nil =>
      exact Nat.le_of_eq (by rw [List.mem_singleton.mp ht, oneLine, List.intercalate_singleton])
    | cons u' us =>
      rw [oneLine, List.intercalate_cons_cons, List.length_append, List.length_append]
      rcases List.mem_cons.mp ht with rfl | ht
      · omega
      · have hrest := ih ht
        rw [oneLine] at hrest
        omega

theorem lineFeed_notMem_oneLine {texts : List (List Char)} :
    '\n' ∉ oneLine texts ↔ ∀ t ∈ texts, '\n' ∉ t := by
  rw [← List.contains_iff_mem, contains_oneLine, List.any_eq_true]
  simp only [List.contains_iff_mem, not_exists, not_and]

/-- Items fit on a line if the line is short enough and none of them has several lines. -/
theorem fits_iff {limit : LineLimit} {texts : List (List Char)} : fits limit texts = true ↔
    limit.allows (oneLine texts).length = true ∧ ∀ t ∈ texts, '\n' ∉ t := by
  rw [fits, Bool.and_eq_true, ← lineFeed_notMem_oneLine, Bool.not_eq_true', ← Bool.not_eq_true,
    List.contains_iff_mem]

/-- Between brackets there are line feeds if the items do not fit. -/
theorem lineFeed_notMem_bracket {limit : LineLimit} {opener closer : Char}
    {texts : List (List Char)} (hopener : opener ≠ '\n') (hcloser : closer ≠ '\n') :
    '\n' ∉ bracket limit opener closer texts ↔ fits limit texts = true := by
  rw [bracket]
  split
  next hfits =>
    have hline := lineFeed_notMem_oneLine.mpr (fits_iff.mp hfits).2
    simp [hfits, hline, hopener.symm, hcloser.symm]
  next hfits => simp [hfits]

namespace Outline

/-! ## Containers that can be broken -/

/-- The brackets of a container that is broken if its items do not fit on one line.  A tuple with one
item is never broken by itself, and an empty set has no brackets. -/
def brackets? : Outline → Option (Char × Char)
  | leaf _ | circular | cut | tuple [_] | set _ [] => none
  | list _ => some ('[', ']')
  | tuple _ => some ('(', ')')
  | set _ _ | arranged _ | mapping _ => some ('\x7b', '\x7d')

/-- The texts of the items of a container, in the order in which they are written. -/
def itemTexts (limit : LineLimit) : Outline → List (List Char)
  | leaf _ | circular | cut => []
  | list items | tuple items | arranged items => layoutAll limit items
  | set _ items => (layoutAll limit items).mergeSort textLE
  | mapping entries => layoutEntries limit entries

/-- A container that can be broken has more than `n` characters between its brackets, if every line is
short enough. -/
def IsWide (n : Nat) (o : Outline) : Prop :=
  o.brackets?.isSome = true ∧ n < (o.line .always).length

instance (n : Nat) (o : Outline) : Decidable (o.IsWide n) :=
  inferInstanceAs (Decidable (_ ∧ _))

/-- An outline itself shows no name with a line feed. -/
def IsFlat : Outline → Prop
  | leaf text => '\n' ∉ text
  | set typeName [] => '\n' ∉ typeName
  | _ => True

instance : DecidablePred IsFlat
  | leaf text => inferInstanceAs (Decidable ('\n' ∉ text))
  | set typeName [] => inferInstanceAs (Decidable ('\n' ∉ typeName))
  | set _ (_ :: _) | circular | cut | list _ | tuple _ | arranged _ | mapping _ =>
    inferInstanceAs (Decidable True)

variable {l l' : LineLimit} {o : Outline} {b : Char × Char} {n : Nat}

theorem brackets_ne (h : o.brackets? = some b) : b.1 ≠ '\n' ∧ b.2 ≠ '\n' := by
  rw [brackets?.eq_def] at h
  split at h <;> cases h <;> exact ⟨by decide, by decide⟩

theorem layout_emptySet (l : LineLimit) (typeName : List Char) :
    (set typeName []).layout l = typeName ++ ['(', ')'] := by
  rw [layout, layoutAll, List.mergeSort_nil]

/-- What has no brackets is a tuple with one item, or a text that does not depend on the line limit. -/
theorem of_brackets?_eq_none (h : o.brackets? = none) :
    (∃ one, o = tuple [one]) ∨ o.parts = [] ∧ ∀ l, o.layout l = o.layout .always := by
  match o with
  | leaf _ | circular | cut => exact .inr ⟨rfl, fun _ => rfl⟩
  | tuple [one] => exact .inl ⟨one, rfl⟩
  | set typeName [] =>
    exact .inr ⟨rfl, fun l => (layout_emptySet l typeName).trans (layout_emptySet .always typeName).symm⟩

/-- The items of a container that can be broken stand between its brackets. -/
theorem layout_eq_bracket (h : o.brackets? = some b) (l : LineLimit) :
    o.layout l = bracket l b.1 b.2 (o.itemTexts l) := by
  match o, h with
  | list _, h | arranged _, h | mapping _, h =>
    cases h
    rw [layout]
    rfl
  | tuple [], h | tuple (_ :: _ :: _), h =>
    cases h
    rfl
  | set typeName (o :: os), h =>
    cases h
    have hne : (layoutAll l (o :: os)).mergeSort textLE ≠ [] := by
      rw [← List.length_pos_iff, List.length_mergeSort]
      exact Nat.succ_pos _
    rw [layout, itemTexts]
    split
    next hnil => exact absurd hnil hne
    · rfl

theorem line_eq_oneLine (h : o.brackets? = some b) (l : LineLimit) :
    o.line l = oneLine (o.itemTexts l) := by
  match o, h with
  | list _, _ | arranged _, _ | mapping _, _ | tuple _, _ | set _ _, _ => rw [line, itemTexts]

/-! ## Items and parts -/

theorem itemTexts_congr (h : ∀ q ∈ o.parts, q.layout l = q.layout l') :
    o.itemTexts l = o.itemTexts l' := by
  have hall {os : List Outline} (h : ∀ q ∈ os, q.layout l = q.layout l') :
      layoutAll l os = layoutAll l' os := by
    rw [layoutAll_eq_map, layoutAll_eq_map]
    exact List.map_congr_left h
  cases o with
  | leaf | circular | cut => rfl
  | list | tuple | arranged => exact hall h
  | set => exact congrArg (List.mergeSort · textLE) (hall h)
  | mapping entries =>
    rw [itemTexts, itemTexts, layoutEntries_eq_map, layoutEntries_eq_map]
    refine List.map_congr_left fun e he => ?_
    obtain ⟨hkey, hvalue⟩ := forall_mem_parts_mapping.mp h e he
    rw [hkey, hvalue]

/-- What stands inside a container is written in one of its items. -/
theorem exists_itemText {q : Outline} (hq : q ∈ o.parts) (l : LineLimit) :
    ∃ t ∈ o.itemTexts l, q.layout l <:+: t := by
  have hall {os : List Outline} (hq : q ∈ os) : q.layout l ∈ layoutAll l os := by
    rw [layoutAll_eq_map]
    exact List.mem_map_of_mem hq
  cases o with
  | leaf | circular | cut => exact absurd hq List.not_mem_nil
  | list | tuple | arranged => exact ⟨_, hall hq, List.infix_refl _⟩
  | set => exact ⟨_, (List.mergeSort_perm _ textLE).mem_iff.mpr (hall hq), List.infix_refl _⟩
  | mapping entries =>
    obtain ⟨e, he, hq⟩ := List.mem_flatMap.mp hq
    refine ⟨e.1.layout l ++ ':' :: ' ' :: e.2.layout l, ?_, ?_⟩
    · rw [itemTexts, layoutEntries_eq_map]
      exact List.mem_map.mpr ⟨e, he, rfl⟩
    · simp only [List.mem_cons, List.not_mem_nil, or_false] at hq
      rcases hq with rfl | rfl
      · exact ⟨[], _, rfl⟩
      · exact ⟨e.1.layout l ++ [':', ' '], [], by simp⟩

/-- The items of a container have line feeds if what stands inside it has. -/
theorem lineFeed_notMem_itemTexts :
    (∀ t ∈ o.itemTexts l, '\n' ∉ t) ↔ ∀ q ∈ o.parts, '\n' ∉ q.layout l := by
  refine ⟨fun h q hq hmem => ?_, fun h t ht => ?_⟩
  · obtain ⟨t, ht, hpart⟩ := exists_itemText hq l
    exact h t ht (hpart.subset hmem)
  · have hall {os : List Outline} (h : ∀ q ∈ os, '\n' ∉ q.layout l) (ht : t ∈ layoutAll l os) :
        '\n' ∉ t := by
      rw [layoutAll_eq_map] at ht
      obtain ⟨q, hq, rfl⟩ := List.mem_map.mp ht
      exact h q hq
    cases o with
    | leaf | circular | cut => exact absurd ht List.not_mem_nil
    | list | tuple | arranged => exact hall h ht
    | set => exact hall h ((List.mergeSort_perm _ textLE).mem_iff.mp ht)
    | mapping entries =>
      rw [itemTexts, layoutEntries_eq_map] at ht
      obtain ⟨e, he, rfl⟩ := List.mem_map.mp ht
      obtain ⟨hkey, hvalue⟩ := forall_mem_parts_mapping.mp h e he
      simp [hkey, hvalue]

/-- What stands inside a container is not longer than its items on one line. -/
theorem length_layout_le_line {q : Outline} (hb : o.brackets? = some b) (hq : q ∈ o.parts)
    (l : LineLimit) : (q.layout l).length ≤ (o.line l).length := by
  obtain ⟨t, ht, hpart⟩ := exists_itemText hq l
  rw [line_eq_oneLine hb]
  exact Nat.le_trans hpart.length_le (length_le_oneLine ht)

theorem line_congr (hb : o.brackets? = some b) (h : ∀ q ∈ o.parts, q.layout l = q.layout l') :
    o.line l = o.line l' := by
  rw [line_eq_oneLine hb, line_eq_oneLine hb, itemTexts_congr h]

/-! ## Layouts without line feeds

If no line feed was written, the limit has never been exceeded.  Then the layout is the one under
which every line is short enough. -/

/-- A container stays on one line if the line is short enough and nothing inside has several lines. -/
theorem lineFeed_notMem_layout (hb : o.brackets? = some b) : '\n' ∉ o.layout l ↔
    l.allows (o.line l).length = true ∧ ∀ q ∈ o.parts, '\n' ∉ q.layout l := by
  rw [layout_eq_bracket hb, lineFeed_notMem_bracket (brackets_ne hb).1 (brackets_ne hb).2, fits_iff,
    lineFeed_notMem_itemTexts, line_eq_oneLine hb]

theorem layout_of_lineFeed_notMem (hb : o.brackets? = some b) (h : '\n' ∉ o.layout l) :
    o.layout l = b.1 :: o.line l ++ [b.2] := by
  rw [layout_eq_bracket hb, lineFeed_notMem_bracket (brackets_ne hb).1 (brackets_ne hb).2] at h
  rw [layout_eq_bracket hb, bracket, if_pos h, line_eq_oneLine hb]

theorem lineFeed_notMem_tuple_singleton {one : Outline} :
    '\n' ∉ (tuple [one]).layout l ↔ '\n' ∉ one.layout l := by
  have hlayout : (tuple [one]).layout l = '(' :: one.layout l ++ [',', ')'] := rfl
  simp [hlayout]

/-- **A layout without line feeds is the one under which every line is short enough.** -/
theorem layout_eq_always (h : '\n' ∉ o.layout l) : o.layout l = o.layout .always := by
  induction o using parts_induction with
  | h o ih =>
    cases hb : o.brackets? with
    | none =>
      rcases of_brackets?_eq_none hb with ⟨one, rfl⟩ | ⟨-, hconst⟩
      · have hone := ih one List.mem_cons_self (lineFeed_notMem_tuple_singleton.mp h)
        exact congrArg (fun text => '(' :: text ++ [',', ')']) hone
      · exact hconst l
    | some b =>
      obtain ⟨-, hparts⟩ := (lineFeed_notMem_layout hb).mp h
      have hagree : ∀ q ∈ o.parts, q.layout l = q.layout .always := fun q hq => ih q hq (hparts q hq)
      have halways : '\n' ∉ o.layout .always :=
        (lineFeed_notMem_layout hb).mpr ⟨rfl, fun q hq => hagree q hq ▸ hparts q hq⟩
      rw [layout_of_lineFeed_notMem hb h, layout_of_lineFeed_notMem hb halways, line_congr hb hagree]

/-- An outline itself gives no reason for a line feed, if a line may have `n` characters. -/
def IsCompact (n : Nat) (o : Outline) : Prop := o.IsFlat ∧ ¬o.IsWide n

instance (n : Nat) : DecidablePred (IsCompact n) := fun _ => inferInstanceAs (Decidable (_ ∧ _))

/-- What is laid out without line feeds shows no name that has any. -/
theorem isFlat_of_layout (h : '\n' ∉ o.layout l) : o.IsFlat := by
  match o with
  | leaf text => exact h
  | set typeName [] =>
    rw [layout_emptySet] at h
    exact fun hmem => h (List.mem_append_left _ hmem)
  | circular | cut | list _ | tuple _ | set _ (_ :: _) | arranged _ | mapping _ => trivial

/-- A layout without line feeds shows no container that is too long for a line, if no longer lines are
allowed or if it is not longer itself. -/
theorem throughout_isCompact (h : '\n' ∉ o.layout l)
    (hn : (∀ k, l.allows k = true → k ≤ n) ∨ (o.layout l).length ≤ n) : o.Throughout (IsCompact n) := by
  induction o using parts_induction with
  | h o ih =>
    cases hb : o.brackets? with
    | none =>
      refine .intro ⟨isFlat_of_layout h, fun hwide => by simp [IsWide, hb] at hwide⟩ fun q hq => ?_
      rcases of_brackets?_eq_none hb with ⟨one, rfl⟩ | ⟨hparts, -⟩
      · obtain rfl := List.mem_singleton.mp hq
        refine ih q hq (lineFeed_notMem_tuple_singleton.mp h) (hn.imp_right fun hlength => ?_)
        have hlayout : ((tuple [q]).layout l).length = (q.layout l).length + 3 := by
          change ('(' :: q.layout l ++ [',', ')']).length = _
          simp
        omega
      · rw [hparts] at hq
        exact absurd hq List.not_mem_nil
    | some b =>
      obtain ⟨hallows, hparts⟩ := (lineFeed_notMem_layout hb).mp h
      have hlayout := congrArg List.length (layout_of_lineFeed_notMem hb h)
      simp only [List.length_append, List.length_cons, List.length_nil] at hlayout
      have hline : (o.line l).length ≤ n := hn.elim (fun hn => hn _ hallows) fun hn => by omega
      refine .intro ⟨isFlat_of_layout h, fun hwide => ?_⟩ fun q hq => ?_
      · have hagree := line_congr hb fun q hq => layout_eq_always (hparts q hq)
        rw [hagree] at hline
        exact absurd hwide.2 (Nat.not_lt.mpr hline)
      · exact ih q hq (hparts q hq)
          (.inr (Nat.le_trans (length_layout_le_line hb hq l) hline))

/-- **What gives no reason for a line feed is laid out without any.** -/
theorem lineFeed_notMem_of_isCompact (hl : ∀ k ≤ n, l.allows k = true)
    (h : o.Throughout (IsCompact n)) : '\n' ∉ o.layout l := by
  induction h with
  | @intro o hcompact _ ih =>
    cases hb : o.brackets? with
    | some b =>
      have hline : o.line l = o.line .always := line_congr hb fun q hq => layout_eq_always (ih q hq)
      have hlength : (o.line .always).length ≤ n :=
        Nat.not_lt.mp fun hlt => hcompact.2 ⟨by rw [hb]; rfl, hlt⟩
      exact (lineFeed_notMem_layout hb).mpr ⟨hl _ (hline ▸ hlength), ih⟩
    | none =>
      match o, hb, hcompact.1 with
      | leaf _, _, hflat => exact hflat
      | circular, _, _ => exact (by decide : '\n' ∉ circularText)
      | cut, _, _ => exact (by decide : '\n' ∉ cutText)
      | tuple [one], _, _ => exact lineFeed_notMem_tuple_singleton.mpr (ih one List.mem_cons_self)
      | set typeName [], _, hflat =>
        have hname : '\n' ∉ typeName := hflat
        rw [layout_emptySet]
        simpa using hname

/-! ## What an outline shows -/

/-- An outline shows itself and all that stands inside it. -/
inductive Shows : Outline → Outline → Prop
  | here (o : Outline) : Shows o o
  | inside {o q r : Outline} (hq : q ∈ o.parts) (h : Shows q r) : Shows o r

theorem throughout_iff_forall_shows {P : Outline → Prop} :
    o.Throughout P ↔ ∀ q, o.Shows q → P q := by
  refine ⟨fun h q hq => ?_, fun h => ?_⟩
  · induction hq with
    | here => exact (throughout_iff.mp h).1
    | inside hq _ ih => exact ih ((throughout_iff.mp h).2 _ hq)
  · induction o using parts_induction with
    | h o ih => exact .intro (h o (.here o)) fun q hq => ih q hq fun r hr => h r (.inside hq hr)

/-- Without line feeds in names, it is for a container that is too long that lines are broken. -/
theorem exists_isWide_iff (hflat : o.Throughout IsFlat) :
    (∃ q, o.Shows q ∧ q.IsWide n) ↔ ¬o.Throughout (IsCompact n) := by
  refine ⟨fun ⟨q, hq, hwide⟩ h => (throughout_iff_forall_shows.mp h q hq).2 hwide, fun h => ?_⟩
  refine Classical.byContradiction fun hnone => h (throughout_iff_forall_shows.mpr fun q hq => ?_)
  exact ⟨throughout_iff_forall_shows.mp hflat q hq, fun hwide => hnone ⟨q, hq, hwide⟩⟩

/-- **A layout is broken if and only if a container in it is too long for a line**, provided that no
name has a line feed. -/
theorem lineFeed_mem_layout_iff (hflat : o.Throughout IsFlat) (n : Nat) :
    '\n' ∈ o.layout (.upTo n) ↔ ∃ q, o.Shows q ∧ q.IsWide n := by
  rw [exists_isWide_iff hflat]
  refine ⟨fun h hcompact => ?_, fun h => ?_⟩
  · have hl (k : Nat) (hk : k ≤ n) : (LineLimit.upTo n).allows k = true := decide_eq_true hk
    exact lineFeed_notMem_of_isCompact hl hcompact h
  · refine Classical.byContradiction fun hnot => h ?_
    exact throughout_isCompact hnot (.inl fun k hk => of_decide_eq_true hk)

end Outline

end ValueShape
