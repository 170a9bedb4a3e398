import ValueShape.Outline.Basic

/-!
# Layout and line limits

What a line limit has an influence on: white space only.

* `Outline.Throughout P o` says that `P` holds of an outline and of all that stands inside it.
* `unspaced` takes the spaces and the line boundaries out of a text.
* `Outline.unspaced_layout` says that the layouts of an outline under two limits differ in these
  only, unless a set has several members.  A broken container is cut into lines again, once for each
  container around it, and these lines are joined by line feeds.  So a line boundary of another kind,
  which a name may hold, can be lost or become a line feed, but nothing else changes.

The members of a set stand in the order of their texts, in which line feeds and spaces count.  So the
limit can change the order.
-/

set_option autoImplicit false

namespace ValueShape

namespace Outline

/-! ## What stands inside an outline -/

/-- What stands directly inside an outline. -/
def parts : Outline → List Outline
  | leaf _ | circular | cut => []
  | list items | tuple items | set _ items | arranged items => items
  | mapping entries => entries.flatMap fun e => [e.1, e.2]

theorem forall_mem_parts_mapping {P : Outline → Prop} {entries : List (Outline × Outline)} :
    (∀ q ∈ (mapping entries).parts, P q) ↔ ∀ e ∈ entries, P e.1 ∧ P e.2 := by
  simp only [parts, List.forall_mem_flatMap, List.forall_mem_cons, List.not_mem_nil, false_imp_iff,
    implies_true, and_true]

/-- A property of an outline and of all that stands inside it. -/
inductive Throughout (P : Outline → Prop) : Outline → Prop
  | intro {o : Outline} (here : P o) (inside : ∀ q ∈ o.parts, Throughout P q) : Throughout P o

theorem throughout_iff {P : Outline → Prop} {o : Outline} :
    o.Throughout P ↔ P o ∧ ∀ q ∈ o.parts, q.Throughout P :=
  ⟨fun ⟨here, inside⟩ => ⟨here, inside⟩, fun ⟨here, inside⟩ => ⟨here, inside⟩⟩

mutual

/-- Whether an outline and all that stands inside it pass a test. -/
def every (p : Outline → Bool) : Outline → Bool
  | leaf text => p (leaf text)
  | circular => p circular
  | cut => p cut
  | list items => p (list items) && everyOf p items
  | tuple items => p (tuple items) && everyOf p items
  | set typeName items => p (set typeName items) && everyOf p items
  | arranged items => p (arranged items) && everyOf p items
  | mapping entries => p (mapping entries) && everyEntry p entries

/-- Whether several outlines and all that stands inside them pass a test. -/
def everyOf (p : Outline → Bool) : List Outline → Bool
  | [] => true
  | o :: os => every p o && everyOf p os

/-- Whether the entries of a mapping and all that stands inside them pass a test. -/
def everyEntry (p : Outline → Bool) : List (Outline × Outline) → Bool
  | [] => true
  | (key, value) :: es => every p key && every p value && everyEntry p es

end

theorem everyOf_eq_all (p : Outline → Bool) (os : List Outline) :
    everyOf p os = os.all (every p) := by
  induction os with
  | nil => rfl
  | cons o os ih => rw [everyOf, ih, List.all_cons]

theorem everyEntry_eq_all (p : Outline → Bool) (es : List (Outline × Outline)) :
    everyEntry p es = (mapping es).parts.all (every p) := by
  induction es with
  | nil => rfl
  | cons e es ih =>
    rw [everyEntry, ih, Bool.and_assoc]
    rfl

theorem every_eq (p : Outline → Bool) (o : Outline) : o.every p = (p o && o.parts.all (every p)) := by
  cases o with
  | leaf | circular | cut => exact (Bool.and_true _).symm
  | list items | tuple items | set typeName items | arranged items =>
    rw [every, everyOf_eq_all]
    rfl
  | mapping entries => rw [every, everyEntry_eq_all]

theorem sizeOf_lt_of_mem_parts {o q : Outline} (h : q ∈ o.parts) : sizeOf q < sizeOf o := by
  cases o with
  | leaf | circular | cut => exact absurd h List.not_mem_nil
  | list items | tuple items | set typeName items | arranged items =>
    have hlt : sizeOf q < sizeOf items := List.sizeOf_lt_of_mem h
    simp only [list.sizeOf_spec, tuple.sizeOf_spec, set.sizeOf_spec, arranged.sizeOf_spec]
    omega
  | mapping entries =>
    obtain ⟨e, he, hq⟩ := List.mem_flatMap.mp h
    have hlt := List.sizeOf_lt_of_mem he
    have hentry : sizeOf q < sizeOf e := by
      obtain ⟨key, value⟩ := e
      rw [Prod.mk.sizeOf_spec]
      simp only [List.mem_cons, List.not_mem_nil, or_false] at hq
      rcases hq with rfl | rfl <;> omega
    rw [mapping.sizeOf_spec]
    omega

/-- Induction on what stands inside an outline. -/
theorem parts_induction {P : Outline → Prop} (h : ∀ o, (∀ q ∈ o.parts, P q) → P o) (o : Outline) :
    P o := by
  induction hn : sizeOf o using Nat.strongRecOn generalizing o with
  | ind n ih =>
    subst hn
    exact h o fun q hq => ih (sizeOf q) (sizeOf_lt_of_mem_parts hq) q rfl

theorem every_iff_throughout {p : Outline → Bool} {P : Outline → Prop} (hp : ∀ o, p o = true ↔ P o)
    (o : Outline) : o.every p = true ↔ o.Throughout P := by
  induction o using parts_induction with
  | h o ih =>
    rw [every_eq, Bool.and_eq_true, List.all_eq_true, hp, throughout_iff]
    exact and_congr_right fun _ => forall₂_congr ih

instance (P : Outline → Prop) [DecidablePred P] : DecidablePred (Throughout P) := fun o =>
  decidable_of_iff (o.every (decide <| P ·) = true)
    (every_iff_throughout (fun _ => decide_eq_true_iff) o)

/-- A set that is shown has one member at most. -/
def IsNarrow : Outline → Prop
  | set _ items | arranged items => items.length ≤ 1
  | _ => True

instance : DecidablePred IsNarrow
  | set _ items | arranged items => inferInstanceAs (Decidable (items.length ≤ 1))
  | leaf _ | circular | cut | list _ | tuple _ | mapping _ => inferInstanceAs (Decidable True)

/-- Texts of the items of a container agree in some respect if those of each of them do. -/
theorem map_layoutAll_congr {α : Type} {f : List Char → α} {l l' : LineLimit} {os : List Outline}
    (h : ∀ o ∈ os, f (o.layout l) = f (o.layout l')) :
    (layoutAll l os).map f = (layoutAll l' os).map f := by
  simp only [layoutAll_eq_map, List.map_map]
  exact List.map_congr_left h

end Outline

/-! ## Texts without white space

Taking the white space out of a text goes well with putting texts together.  So it is enough to look
at what a line limit puts between the parts. -/

/-- A function that acts on the parts of a list one by one does so if there are separators between
them. -/
theorem apply_intercalate {α β : Type} {f : List α → List β} (hnil : f [] = [])
    (happend : ∀ as bs, f (as ++ bs) = f as ++ f bs) (sep : List α) (parts : List (List α)) :
    f (sep.intercalate parts) = (f sep).intercalate (parts.map f) := by
  induction parts with
  | nil => exact hnil
  | cons p ps ih =>
    cases ps with
    | nil => rw [List.intercalate_singleton, List.map_singleton, List.intercalate_singleton]
    | cons q qs =>
      rw [List.intercalate_cons_cons, happend, happend, ih, List.map_cons, List.map_cons, List.map_cons,
        List.intercalate_cons_cons]

/-- Whether a character is a space or a line boundary. -/
def isSpacing (c : Char) : Bool := c == ' ' || isLineBoundary c

/-- A text without its spaces and its line boundaries. -/
def unspaced (cs : List Char) : List Char := cs.filter (!isSpacing ·)

theorem unspaced_append (cs ds : List Char) : unspaced (cs ++ ds) = unspaced cs ++ unspaced ds :=
  List.filter_append ..

theorem unspaced_cons_of_isSpacing {c : Char} (h : isSpacing c = true) (cs : List Char) :
    unspaced (c :: cs) = unspaced cs := by
  rw [unspaced, List.filter_cons_of_neg (by simp [h]), unspaced]

theorem unspaced_cons_congr (c : Char) {cs ds : List Char} (h : unspaced cs = unspaced ds) :
    unspaced (c :: cs) = unspaced (c :: ds) := by
  rw [← List.singleton_append, unspaced_append, h, ← unspaced_append, List.singleton_append]

/-- White space between texts does not count. -/
theorem unspaced_intercalate (sep : List Char) (texts : List (List Char)) :
    unspaced (sep.intercalate texts) = (unspaced sep).intercalate (texts.map unspaced) :=
  apply_intercalate rfl unspaced_append sep texts

/-- Cutting a text into lines takes away boundaries only. -/
theorem unspaced_flatten_lines (cs : List Char) : unspaced (lines cs).flatten = unspaced cs := by
  induction cs with
  | nil => rfl
  | cons c cs ih =>
    rw [lines]
    split
    next hc =>
      have hspacing : isSpacing c = true := by rw [isSpacing, hc, Bool.or_true]
      rw [unspaced_cons_of_isSpacing hspacing, ← ih]
      split <;> rfl
    next hc =>
      split
      next hlines =>
        rw [hlines] at ih
        exact unspaced_cons_congr c ih
      next hlines =>
        rw [hlines] at ih
        exact unspaced_cons_congr c ih

theorem unspaced_flatten (texts : List (List Char)) :
    unspaced texts.flatten = (texts.map unspaced).flatten :=
  List.filter_flatten ..

theorem unspaced_joinLines (ls : List (List Char)) :
    unspaced (joinLines ls) = unspaced ls.flatten := by
  have hsep : unspaced ['\n'] = [] := rfl
  rw [joinLines, unspaced_intercalate, hsep, unspaced_flatten]
  generalize ls.map unspaced = texts
  induction texts with
  | nil => rfl
  | cons t ts ih =>
    cases ts with
    | nil => rw [List.intercalate_singleton, List.flatten_singleton]
    | cons u us =>
      rw [List.intercalate_cons_cons, ih, List.append_nil]
      rfl

theorem unspaced_indent_append (cs : List Char) : unspaced (indent ++ cs) = unspaced cs := by
  have hindent : unspaced indent = [] := rfl
  rw [unspaced_append, hindent, List.nil_append]

/-! ## Brackets -/

/-- A line has line feeds if one of its items has. -/
theorem contains_oneLine (items : List (List Char)) :
    (oneLine items).contains '\n' = items.any (·.contains '\n') := by
  induction items with
  | nil => rfl
  | cons t ts ih =>
    cases ts with
    | nil => rw [oneLine, List.intercalate_singleton, List.any_cons, List.any_nil, Bool.or_false]
    | cons u us =>
      rw [List.any_cons, ← ih, oneLine, List.intercalate_cons_cons, List.append_assoc]
      simp [oneLine]

theorem unspaced_oneLine (items : List (List Char)) :
    unspaced (oneLine items) = [','].intercalate (items.map unspaced) :=
  unspaced_intercalate ..

theorem unspaced_indented (items : List (List Char)) :
    unspaced (indented items) = [','].intercalate (items.map unspaced) := by
  rw [indented, unspaced_joinLines, unspaced_flatten, List.map_map]
  have hmap : (lines ([',', '\n'].intercalate items)).map (unspaced ∘ (indent ++ ·)) =
      (lines ([',', '\n'].intercalate items)).map unspaced :=
    List.map_congr_left fun _ _ => unspaced_indent_append _
  have hsep : unspaced [',', '\n'] = [','] := rfl
  rw [hmap, ← unspaced_flatten, unspaced_flatten_lines, unspaced_intercalate, hsep]

/-- Whether items are broken makes no difference but for white space. -/
theorem unspaced_bracket (limit : LineLimit) (opener closer : Char) (items : List (List Char)) :
    unspaced (bracket limit opener closer items) =
      unspaced [opener] ++ [','].intercalate (items.map unspaced) ++ unspaced [closer] := by
  have hfeed : isSpacing '\n' = true := rfl
  rw [bracket]
  split
  · rw [List.cons_append, ← List.singleton_append, unspaced_append, unspaced_append,
      unspaced_oneLine, List.append_assoc]
  · rw [List.cons_append, List.cons_append, ← List.singleton_append, unspaced_append,
      unspaced_cons_of_isSpacing hfeed, unspaced_append, unspaced_indented,
      unspaced_cons_of_isSpacing hfeed, List.append_assoc]

theorem unspaced_bracket_congr {l l' : LineLimit} (opener closer : Char)
    {items items' : List (List Char)} (h : items.map unspaced = items'.map unspaced) :
    unspaced (bracket l opener closer items) = unspaced (bracket l' opener closer items') := by
  rw [unspaced_bracket, unspaced_bracket, h]

/-! ## Layout -/

namespace Outline

variable {l l' : LineLimit}

/-- The members of a set with one member are in order. -/
theorem mergeSort_layoutAll {items : List Outline} (h : items.length ≤ 1) (l : LineLimit) :
    (layoutAll l items).mergeSort textLE = layoutAll l items := by
  match items with
  | [] => exact List.mergeSort_nil
  | [o] => exact List.mergeSort_singleton _

/-- **Line limits have an influence on white space only.** -/
theorem unspaced_layout {o : Outline} (h : o.Throughout IsNarrow) (l l' : LineLimit) :
    unspaced (o.layout l) = unspaced (o.layout l') := by
  induction h with
  | @intro o hnarrow _ ih =>
    cases o with
    | leaf | circular | cut => rfl
    | list items =>
      rw [layout, layout]
      exact unspaced_bracket_congr _ _ (map_layoutAll_congr ih)
    | tuple items =>
      match items with
      | [one] =>
        have hone : unspaced (one.layout l) = unspaced (one.layout l') :=
          ih one (List.mem_singleton.mpr rfl)
        change unspaced ('(' :: one.layout l ++ [',', ')']) =
          unspaced ('(' :: one.layout l' ++ [',', ')'])
        refine unspaced_cons_congr _ ?_
        rw [List.append_eq, List.append_eq, unspaced_append, unspaced_append, hone]
      | [] => exact unspaced_bracket_congr _ _ rfl
      | o₁ :: o₂ :: os => exact unspaced_bracket_congr _ _ (map_layoutAll_congr ih)
    | set typeName items =>
      rw [layout, layout, mergeSort_layoutAll hnarrow, mergeSort_layoutAll hnarrow]
      cases items with
      | nil => rfl
      | cons o os => exact unspaced_bracket_congr _ _ (map_layoutAll_congr ih)
    | arranged items =>
      rw [layout, layout]
      exact unspaced_bracket_congr _ _ (map_layoutAll_congr ih)
    | mapping entries =>
      rw [layout, layout, layoutEntries_eq_map, layoutEntries_eq_map]
      refine unspaced_bracket_congr _ _ ?_
      rw [List.map_map, List.map_map]
      refine List.map_congr_left fun e he => ?_
      obtain ⟨hkey, hvalue⟩ := forall_mem_parts_mapping.mp ih e he
      change unspaced (layout l e.1 ++ ':' :: ' ' :: layout l e.2) =
        unspaced (layout l' e.1 ++ ':' :: ' ' :: layout l' e.2)
      rw [unspaced_append, unspaced_append, hkey]
      exact congrArg _ (unspaced_cons_congr _ (unspaced_cons_congr _ hvalue))

end Outline

end ValueShape
