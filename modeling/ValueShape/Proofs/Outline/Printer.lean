import Mathlib.Data.List.Forall2
import ValueShape.Proofs.Outline.Spacing

/-!
# Direct indentation

`Outline.layout` works from the inside out: the text of a broken container is cut into lines, and
these move right once more for each container around it.  `Outline.printed` writes an outline the
other way, from the outside in: it knows the level at which it writes.

* A broken container begins a new line, one level further in, for each of its items, and one at its
  own level for its closing bracket.  A line feed inside a name begins a line at the level of the
  name.
* A `Sign` is a character or the beginning of a line at a level, so that what is written tells the
  indentation of each line.
* `Outline.writes_layout` says that both give the same text, if the names are neat: not empty, without
  a line feed at their end and without line boundaries of other kinds.  Only such names keep all of
  their characters when the text around them is cut into lines.
-/

set_option autoImplicit false

namespace ValueShape

/-! ## Signs

The beginning of a line is a sign of its own, with a level.  It becomes spaces in the end, so
nothing is indented twice. -/

/-- What is written: a character, or the beginning of a line. -/
inductive Sign
  /-- A character. -/
  | char (c : Char)
  /-- The beginning of a line at a level. -/
  | newLine (level : Nat)
deriving DecidableEq, Repr

/-- The beginning of a line: two spaces for each level. -/
def lineStart (level : Nat) : List Char := '\n' :: List.replicate (2 * level) ' '

/-- The text of a sign. -/
def Sign.text : Sign → List Char
  | char c => [c]
  | newLine level => lineStart level

/-- The text of signs. -/
def signText (signs : List Sign) : List Char := signs.flatMap Sign.text

/-- A text whose lines begin at a level, as signs. -/
def signsAt (level : Nat) (text : List Char) : List Sign :=
  text.map fun c => if c = '\n' then .newLine level else .char c

/-! ## Printing -/

/-- Something that can be written at any level. -/
structure Printed where
  /-- How it is written on one line. -/
  flat : List Char
  /-- Whether it needs several lines. -/
  isBroken : Bool
  /-- How it is written at a level. -/
  written : Nat → List Sign

namespace Printed

/-- A name, whose lines all begin at the same level. -/
def name (text : List Char) : Printed := ⟨text, text.contains '\n', fun level => signsAt level text⟩

/-- The items of a container between brackets.  It is broken if one of them is, or if they are too
long for one line. -/
def container (n : Nat) (opener closer : Char) (items : List Printed) : Printed :=
  let line := oneLine (items.map flat)
  let isBroken := n < line.length || items.any isBroken
  let written := fun level =>
    if isBroken then
      .char opener :: .newLine (level + 1) ::
        [.char ',', .newLine (level + 1)].intercalate (items.map (·.written (level + 1))) ++
        [.newLine level, .char closer]
    else (opener :: line ++ [closer]).map .char
  ⟨opener :: line ++ [closer], isBroken, written⟩

/-- A tuple with one item. -/
def single (item : Printed) : Printed where
  flat := '(' :: item.flat ++ [',', ')']
  isBroken := item.isBroken
  written level := .char '(' :: item.written level ++ [.char ',', .char ')']

/-- An entry of a mapping. -/
def entry (key value : Printed) : Printed where
  flat := key.flat ++ ':' :: ' ' :: value.flat
  isBroken := key.isBroken || value.isBroken
  written level := key.written level ++ .char ':' :: .char ' ' :: value.written level

end Printed

namespace Outline

mutual

/-- How an outline is written, if a line of items may have `n` characters. -/
def printed (n : Nat) : Outline → Printed
  | leaf text => .name text
  | circular => .name circularText
  | cut => .name cutText
  | list items => .container n '[' ']' (printedAll n items)
  | tuple items =>
    match printedAll n items with
    | [item] => .single item
    | items => .container n '(' ')' items
  | set typeName items =>
    match printedAll n items with
    | [] => .name (typeName ++ ['(', ')'])
    | items => .container n '\x7b' '\x7d' items
  | arranged items => .container n '\x7b' '\x7d' (printedAll n items)
  | mapping entries => .container n '\x7b' '\x7d' (printedEntries n entries)

/-- How several outlines are written. -/
def printedAll (n : Nat) : List Outline → List Printed
  | [] => []
  | o :: os => printed n o :: printedAll n os

/-- How the entries of a mapping are written. -/
def printedEntries (n : Nat) : List (Outline × Outline) → List Printed
  | [] => []
  | (key, value) :: es => .entry (printed n key) (printed n value) :: printedEntries n es

end

end Outline

/-! ## Neat texts

Layout cuts a text into lines and joins them again.  This loses how lines were ended, and whether
there was an end behind the last one. -/

/-- A text that has no line boundaries but line feeds. -/
def HasPlainLines (text : List Char) : Prop := ∀ c ∈ text, isLineBoundary c = true → c = '\n'

/-- A text that can be cut into lines and put together again. -/
structure IsNeat (text : List Char) : Prop where
  /-- It is not empty. -/
  ne_nil : text ≠ []
  /-- It does not end in a line feed. -/
  getLast?_ne : text.getLast? ≠ some '\n'
  /-- It has no line boundaries but line feeds. -/
  plain : HasPlainLines text

instance : DecidablePred HasPlainLines := fun text =>
  List.decidableBAll (fun c => isLineBoundary c = true → c = '\n') text

instance : DecidablePred IsNeat := fun text =>
  decidable_of_iff (text ≠ [] ∧ text.getLast? ≠ some '\n' ∧ HasPlainLines text)
    ⟨fun ⟨hne, hlast, hplain⟩ => ⟨hne, hlast, hplain⟩, fun ⟨hne, hlast, hplain⟩ => ⟨hne, hlast, hplain⟩⟩

theorem HasPlainLines.of_all {text : List Char}
    (h : text.all (fun c => !isLineBoundary c) = true) : HasPlainLines text := by
  intro c hc hboundary
  have hnot := List.all_eq_true.mp h c hc
  rw [hboundary] at hnot
  exact absurd hnot (by decide)

theorem HasPlainLines.append {s t : List Char} (hs : HasPlainLines s) (ht : HasPlainLines t) :
    HasPlainLines (s ++ t) :=
  fun c hc => (List.mem_append.mp hc).elim (hs c) (ht c)

theorem HasPlainLines.cons {c : Char} (hc : isLineBoundary c = true → c = '\n') {t : List Char}
    (ht : HasPlainLines t) : HasPlainLines (c :: t) :=
  List.forall_mem_cons.mpr ⟨hc, ht⟩

theorem HasPlainLines.cons_of_not {c : Char} (hc : isLineBoundary c = false) {t : List Char}
    (ht : HasPlainLines t) : HasPlainLines (c :: t) :=
  .cons (fun h => absurd (hc.symm.trans h) (by decide)) ht

theorem IsNeat.singleton {c : Char} (hc : isLineBoundary c = false) : IsNeat [c] where
  ne_nil := List.cons_ne_nil _ _
  getLast?_ne h := by
    cases h
    exact absurd hc (by decide)
  plain := .cons_of_not hc nofun

theorem Outline.isNeat_circularText : IsNeat Outline.circularText :=
  ⟨by decide, by decide, .of_all (by decide)⟩

theorem Outline.isNeat_cutText : IsNeat Outline.cutText :=
  ⟨by decide, by decide, .of_all (by decide)⟩

theorem isNeat_parentheses : IsNeat ['(', ')'] :=
  ⟨by decide, by decide, .of_all (by decide)⟩

theorem IsNeat.append_right {s t : List Char} (hs : HasPlainLines s) (ht : IsNeat t) :
    IsNeat (s ++ t) where
  ne_nil h := ht.ne_nil (List.append_eq_nil_iff.mp h).2
  getLast?_ne := by
    rw [List.getLast?_append_of_ne_nil _ ht.ne_nil]
    exact ht.getLast?_ne
  plain := hs.append ht.plain

theorem IsNeat.intercalate {sep : List Char} (hsep : HasPlainLines sep) {texts : List (List Char)}
    (h : ∀ t ∈ texts, IsNeat t) (hne : texts ≠ []) : IsNeat (sep.intercalate texts) := by
  induction texts with
  | nil => exact absurd rfl hne
  | cons t ts ih =>
    obtain ⟨ht, hts⟩ := List.forall_mem_cons.mp h
    cases ts with
    | nil => rwa [List.intercalate_singleton]
    | cons u us =>
      rw [List.intercalate_cons_cons]
      exact (ih hts (List.cons_ne_nil _ _)).append_right (ht.plain.append hsep)

theorem HasPlainLines.intercalate {sep : List Char} (hsep : HasPlainLines sep)
    {texts : List (List Char)} (h : ∀ t ∈ texts, IsNeat t) :
    HasPlainLines (sep.intercalate texts) := by
  rcases eq_or_ne texts [] with rfl | hne
  · exact nofun
  · exact (IsNeat.intercalate hsep h hne).plain

/-! ### Indentation -/

/-- A text whose line feeds are followed by the indentation of a level. -/
def hang (level : Nat) (text : List Char) : List Char :=
  text.flatMap fun c => if c = '\n' then lineStart level else [c]

theorem hang_append (level : Nat) (cs ds : List Char) :
    hang level (cs ++ ds) = hang level cs ++ hang level ds :=
  List.flatMap_append

theorem hang_lineFeed (level : Nat) (cs : List Char) :
    hang level ('\n' :: cs) = lineStart level ++ hang level cs := rfl

theorem hang_cons {c : Char} (hc : c ≠ '\n') (level : Nat) (cs : List Char) :
    hang level (c :: cs) = c :: hang level cs := by
  rw [hang, List.flatMap_cons, if_neg hc]
  rfl

/-- Without a line feed there is nothing to indent. -/
theorem hang_eq_self {cs : List Char} (h : '\n' ∉ cs) (level : Nat) : hang level cs = cs := by
  induction cs with
  | nil => rfl
  | cons c cs ih =>
    obtain ⟨hc, hcs⟩ := not_or.mp (mt List.mem_cons.mpr h)
    rw [hang_cons (Ne.symm hc), ih hcs]

theorem hang_zero (cs : List Char) : hang 0 cs = cs := by
  induction cs with
  | nil => rfl
  | cons c cs ih =>
    rcases eq_or_ne c '\n' with rfl | hc
    · rw [hang_lineFeed, ih]
      rfl
    · rw [hang_cons hc, ih]

theorem lineStart_append_indent (level : Nat) : lineStart level ++ indent = lineStart (level + 1) := by
  rw [lineStart, lineStart, Nat.mul_add, List.replicate_add]
  rfl

/-- Indenting once more is indenting at the next level. -/
theorem hang_hang_one (level : Nat) (cs : List Char) :
    hang level (hang 1 cs) = hang (level + 1) cs := by
  have hstart : hang level (lineStart 1) = lineStart (level + 1) := lineStart_append_indent level
  induction cs with
  | nil => rfl
  | cons c cs ih =>
    rcases eq_or_ne c '\n' with rfl | hc
    · rw [hang_lineFeed, hang_append, hstart, ih, hang_lineFeed]
    · rw [hang_cons hc, hang_cons hc, ih, hang_cons hc]

theorem hang_intercalate (level : Nat) (sep : List Char) (texts : List (List Char)) :
    hang level (sep.intercalate texts) =
      (hang level sep).intercalate (texts.map (hang level)) :=
  apply_intercalate rfl (hang_append level) sep texts

theorem signText_append (ss ts : List Sign) : signText (ss ++ ts) = signText ss ++ signText ts :=
  List.flatMap_append

theorem signText_intercalate (sep : List Sign) (parts : List (List Sign)) :
    signText (sep.intercalate parts) = (signText sep).intercalate (parts.map signText) :=
  apply_intercalate rfl signText_append sep parts

theorem signText_map_char (cs : List Char) : signText (cs.map .char) = cs := by
  rw [signText, List.flatMap_map]
  exact List.flatMap_singleton' cs

theorem signText_signsAt (level : Nat) (cs : List Char) :
    signText (signsAt level cs) = hang level cs := by
  rw [signText, signsAt, List.flatMap_map, hang]
  refine List.flatMap_congr fun c _ => ?_
  split <;> rfl

/-! ### Lines -/

theorem joinLines_append_cons (cs l : List Char) (ls : List (List Char)) :
    joinLines ((cs ++ l) :: ls) = cs ++ joinLines (l :: ls) := by
  cases ls with
  | nil => rw [joinLines, joinLines, List.intercalate_singleton, List.intercalate_singleton]
  | cons l' ls =>
    rw [joinLines, joinLines, List.intercalate_cons_cons, List.intercalate_cons_cons,
      List.append_assoc, List.append_assoc, List.append_assoc]

theorem IsNeat.tail {c d : Char} {cs : List Char} (h : IsNeat (c :: d :: cs)) :
    IsNeat (d :: cs) where
  ne_nil := List.cons_ne_nil _ _
  getLast?_ne := by
    rw [← List.getLast?_cons_cons (a := c)]
    exact h.getLast?_ne
  plain e he := h.plain e (List.mem_cons_of_mem _ he)

/-- All lines of a neat text but the first one are indented by `hang`. -/
theorem IsNeat.exists_lines {text : List Char} (h : IsNeat text) :
    ∃ l ls, lines text = l :: ls ∧ joinLines (l :: ls.map (indent ++ ·)) = hang 1 text := by
  induction text with
  | nil => exact absurd rfl h.ne_nil
  | cons c cs ih =>
    cases cs with
    | nil =>
      have hc : isLineBoundary c = false := by
        rw [← Bool.not_eq_true]
        intro hc
        exact h.getLast?_ne (congrArg some (h.plain c List.mem_cons_self hc))
      have hne : c ≠ '\n' := by
        rintro rfl
        exact absurd hc (by decide)
      refine ⟨[c], [], lines_of_no_boundary (by simpa using hc) (List.cons_ne_nil _ _), ?_⟩
      rw [hang_cons hne]
      rfl
    | cons d ds =>
      obtain ⟨l, ls, hlines, hjoin⟩ := ih h.tail
      rcases eq_or_ne c '\n' with rfl | hc
      · refine ⟨[], l :: ls, ?_, ?_⟩
        · rw [lines, hlines]
          rfl
        · rw [hang_lineFeed, ← hjoin]
          rw [List.map_cons, joinLines, List.intercalate_cons_cons]
          exact congrArg ('\n' :: ·) (joinLines_append_cons indent l _)
      · have hboundary : isLineBoundary c = false := by
          rw [← Bool.not_eq_true]
          exact fun h' => hc (h.plain c List.mem_cons_self h')
        refine ⟨c :: l, ls, ?_, ?_⟩
        · rw [lines, hlines, if_neg (by simp [hboundary])]
        · rw [hang_cons hc, ← hjoin]
          exact joinLines_append_cons [c] l _

theorem HasPlainLines.hang {text : List Char} (h : HasPlainLines text) (level : Nat) :
    HasPlainLines (hang level text) := by
  intro c hc hboundary
  obtain ⟨d, hd, hc⟩ := List.mem_flatMap.mp hc
  split at hc
  · rcases List.mem_cons.mp hc with rfl | hc
    · rfl
    · rw [List.eq_of_mem_replicate hc] at hboundary
      exact absurd hboundary (by decide)
  · rw [List.mem_singleton.mp hc] at hboundary ⊢
    exact h d hd hboundary

theorem plain_indent : HasPlainLines indent := .of_all (by decide)

theorem plain_separator : HasPlainLines [',', '\n'] :=
  .cons_of_not (by decide) (.cons (fun _ => rfl) nofun)

/-- Indenting items that are neat loses nothing. -/
theorem indented_eq_hang {items : List (List Char)} (h : ∀ t ∈ items, IsNeat t)
    (hne : items ≠ []) : indented items = indent ++ hang 1 ([',', '\n'].intercalate items) := by
  obtain ⟨l, ls, hlines, hjoin⟩ := (IsNeat.intercalate plain_separator h hne).exists_lines
  rw [indented, hlines, ← hjoin, List.map_cons, joinLines_append_cons]

/-! ## Printing is laying out

`Printed.Writes` is the hypothesis of the induction: what is printed at any level is the text of the
layout, with its lines indented to that level. -/

/-- Something that is printed has a text: when it is written at a level, the lines of this text are
indented, and each line feed is the beginning of a line. -/
structure Printed.Writes (p : Printed) (text : List Char) : Prop where
  /-- The text is neat. -/
  neat : IsNeat text
  /-- It needs several lines if it has several. -/
  isBroken : p.isBroken = text.contains '\n'
  /-- On one line there is the text itself, if that is one line. -/
  flat : p.isBroken = false → p.flat = text
  /-- At a level there is the text with the indentation of this level. -/
  written (level : Nat) : signText (p.written level) = hang level text
  /-- No line begins in another way. -/
  lineFeed_notMem (level : Nat) : .char '\n' ∉ p.written level

namespace Printed

theorem lineFeed_notMem_signsAt (level : Nat) (text : List Char) :
    .char '\n' ∉ signsAt level text := by
  intro h
  obtain ⟨c, -, hc⟩ := List.mem_map.mp h
  split at hc
  · cases hc
  next hne => exact hne (Sign.char.inj hc)

theorem writes_name {text : List Char} (h : IsNeat text) : (name text).Writes text where
  neat := h
  isBroken := rfl
  flat _ := rfl
  written level := signText_signsAt level text
  lineFeed_notMem level := lineFeed_notMem_signsAt level text

/-! ### Containers -/

section Items

variable {n : Nat} {ps : List Printed} {texts : List (List Char)}

theorem any_isBroken (h : List.Forall₂ Writes ps texts) :
    ps.any isBroken = (oneLine texts).contains '\n' := by
  rw [contains_oneLine]
  induction h with
  | nil => rfl
  | cons hp _ ih => rw [List.any_cons, List.any_cons, hp.isBroken, ih]

theorem map_flat (h : List.Forall₂ Writes ps texts) (hflat : ps.any isBroken = false) :
    ps.map flat = texts := by
  induction h with
  | nil => rfl
  | cons hp _ ih =>
    rw [List.any_cons, Bool.or_eq_false_iff] at hflat
    rw [List.map_cons, hp.flat hflat.1, ih hflat.2]

/-- Both ways of writing break the same containers. -/
theorem isBroken_container (h : List.Forall₂ Writes ps texts) (opener closer : Char) :
    (container n opener closer ps).isBroken = !fits (.upTo n) texts := by
  change (n < (oneLine (ps.map flat)).length || ps.any isBroken : Bool) = _
  rw [fits, LineLimit.allows_upTo]
  cases hany : ps.any isBroken with
  | true => rw [← any_isBroken h, hany, Bool.or_true, Bool.not_true, Bool.and_false, Bool.not_false]
  | false =>
    rw [← any_isBroken h, hany, map_flat h hany, Bool.or_false, Bool.not_false, Bool.and_true]
    simp only [← decide_not, Nat.not_le]

theorem map_signText_written (h : List.Forall₂ Writes ps texts) (level : Nat) :
    (ps.map (·.written level)).map signText = texts.map (hang level) := by
  induction h with
  | nil => rfl
  | cons hp _ ih => rw [List.map_cons, List.map_cons, List.map_cons, hp.written, ih]

/-- The lines of a broken container. -/
theorem hang_broken {opener closer : Char} (hopener : opener ≠ '\n') (hcloser : closer ≠ '\n')
    (htexts : ∀ t ∈ texts, IsNeat t) (hne : texts ≠ []) (level : Nat) :
    hang level (opener :: '\n' :: indented texts ++ ['\n', closer]) =
      opener :: lineStart (level + 1) ++
        (',' :: lineStart (level + 1)).intercalate (texts.map (hang (level + 1))) ++
        lineStart level ++ [closer] := by
  have hindent : hang level indent = indent := hang_eq_self (by decide) level
  have hsep : hang (level + 1) [',', '\n'] = ',' :: lineStart (level + 1) := by
    rw [hang_cons (by decide), hang_lineFeed]
    exact congrArg _ (List.append_nil _)
  have hend : hang level ['\n', closer] = lineStart level ++ [closer] := by
    rw [hang_lineFeed, hang_cons hcloser]
    rfl
  rw [indented_eq_hang htexts hne, hang_append, hend, hang_cons hopener, hang_lineFeed, hang_append,
    hindent, ← List.append_assoc (lineStart level), lineStart_append_indent, hang_hang_one,
    hang_intercalate, hsep]
  simp only [List.cons_append, List.append_assoc]

theorem written_container {opener closer : Char}
    (h : (container n opener closer ps).isBroken = true) (level : Nat) :
    (container n opener closer ps).written level =
      .char opener :: .newLine (level + 1) ::
        [.char ',', .newLine (level + 1)].intercalate (ps.map (·.written (level + 1))) ++
        [.newLine level, .char closer] :=
  if_pos h

theorem written_container_of_flat {opener closer : Char}
    (h : (container n opener closer ps).isBroken = false) (level : Nat) :
    (container n opener closer ps).written level =
      (opener :: oneLine (ps.map flat) ++ [closer]).map .char :=
  if_neg (Bool.eq_false_iff.mp h)

theorem any_isBroken_of_container {opener closer : Char}
    (h : (container n opener closer ps).isBroken = false) : ps.any isBroken = false :=
  (Bool.or_eq_false_iff.mp h).2

theorem ne_nil_of_container {opener closer : Char}
    (h : (container n opener closer ps).isBroken = true) : ps ≠ [] := by
  rintro rfl
  exact absurd h (by simp [container, oneLine])

theorem signText_container {opener closer : Char}
    (h : (container n opener closer ps).isBroken = true) (level : Nat) :
    signText ((container n opener closer ps).written level) =
      opener :: lineStart (level + 1) ++ (',' :: lineStart (level + 1)).intercalate
        ((ps.map (·.written (level + 1))).map signText) ++ lineStart level ++ [closer] := by
  have hsep : signText [.char ',', .newLine (level + 1)] = ',' :: lineStart (level + 1) :=
    congrArg (',' :: ·) (List.append_nil _)
  have hend : signText [.newLine level, .char closer] = lineStart level ++ [closer] := rfl
  rw [written_container h, signText_append, hend, ← hsep, ← signText_intercalate,
    ← List.append_assoc]
  rfl

theorem notMem_intercalate {a : Sign} {sep : List Sign} {parts : List (List Sign)} (hsep : a ∉ sep)
    (h : ∀ p ∈ parts, a ∉ p) : a ∉ sep.intercalate parts := by
  induction parts with
  | nil => exact List.not_mem_nil
  | cons p ps ih =>
    obtain ⟨hp, hps⟩ := List.forall_mem_cons.mp h
    cases ps with
    | nil => rwa [List.intercalate_singleton]
    | cons q qs =>
      rw [List.intercalate_cons_cons, List.mem_append, List.mem_append]
      exact not_or.mpr ⟨not_or.mpr ⟨hp, hsep⟩, ih hps⟩

theorem forall_lineFeed_notMem (h : List.Forall₂ Writes ps texts) (level : Nat) :
    ∀ p ∈ ps, .char '\n' ∉ p.written level := by
  induction h with
  | nil => exact nofun
  | cons hp _ ih => exact List.forall_mem_cons.mpr ⟨hp.lineFeed_notMem level, ih⟩

theorem forall_isNeat (h : List.Forall₂ Writes ps texts) : ∀ t ∈ texts, IsNeat t := by
  induction h with
  | nil => exact nofun
  | cons hp _ ih => exact List.forall_mem_cons.mpr ⟨hp.neat, ih⟩

/-- **A broken container is written as it is laid out**, if its items are. -/
theorem writes_container_of_broken (h : List.Forall₂ Writes ps texts) {opener closer : Char}
    (hopener : isLineBoundary opener = false) (hcloser : isLineBoundary closer = false)
    (hbroken : (container n opener closer ps).isBroken = true) :
    (container n opener closer ps).Writes (opener :: '\n' :: indented texts ++ ['\n', closer]) := by
  have hopener' : opener ≠ '\n' := ne_of_apply_ne isLineBoundary (by rw [hopener]; decide)
  have hcloser' : closer ≠ '\n' := ne_of_apply_ne isLineBoundary (by rw [hcloser]; decide)
  have hne : texts ≠ [] := by
    rintro rfl
    exact ne_nil_of_container hbroken (List.forall₂_nil_right_iff.mp h)
  refine ⟨?_, ?_, ?_, fun level => ?_, fun level => ?_⟩
  · have hindented : HasPlainLines (indented texts) := by
      rw [indented_eq_hang (forall_isNeat h) hne]
      exact plain_indent.append ((HasPlainLines.intercalate plain_separator (forall_isNeat h)).hang 1)
    rw [List.append_cons]
    exact .append_right (.append (.cons_of_not hopener (.cons (fun _ => rfl) hindented))
      (.cons (fun _ => rfl) nofun)) (.singleton hcloser)
  · rw [hbroken]
    simp
  · intro hflat
    exact absurd (hbroken.symm.trans hflat) (by decide)
  · rw [signText_container hbroken, map_signText_written h,
      hang_broken hopener' hcloser' (forall_isNeat h) hne]
  · rw [written_container hbroken]
    have hsep : Sign.char '\n' ∉ [.char ',', .newLine (level + 1)] := by simp
    have hitems := notMem_intercalate hsep
      (List.forall_mem_map.mpr (forall_lineFeed_notMem h (level + 1)))
    simpa [hopener'.symm, hcloser'.symm] using hitems

/-- A container on one line is written as it is laid out, if its items are. -/
theorem writes_container_of_flat (h : List.Forall₂ Writes ps texts) {opener closer : Char}
    (hopener : isLineBoundary opener = false) (hcloser : isLineBoundary closer = false)
    (hflat : (container n opener closer ps).isBroken = false) :
    (container n opener closer ps).Writes (opener :: oneLine texts ++ [closer]) := by
  have hopener' : opener ≠ '\n' := ne_of_apply_ne isLineBoundary (by rw [hopener]; decide)
  have hcloser' : closer ≠ '\n' := ne_of_apply_ne isLineBoundary (by rw [hcloser]; decide)
  have hany := any_isBroken_of_container hflat
  have hline : '\n' ∉ opener :: oneLine texts ++ [closer] := by
    have honeLine := hany
    rw [any_isBroken h] at honeLine
    simpa [hopener'.symm, hcloser'.symm] using honeLine
  refine ⟨?_, ?_, fun _ => ?_, fun level => ?_, fun level => ?_⟩
  · exact .append_right (.cons_of_not hopener
      (.intercalate (.of_all (by decide)) (forall_isNeat h))) (.singleton hcloser)
  · rw [hflat]
    simpa using hline
  · change opener :: oneLine (ps.map flat) ++ [closer] = _
    rw [map_flat h hany]
  · rw [written_container_of_flat hflat, map_flat h hany, signText_map_char, hang_eq_self hline]
  · rw [written_container_of_flat hflat, map_flat h hany]
    intro hmem
    obtain ⟨c, hc, heq⟩ := List.mem_map.mp hmem
    cases heq
    exact hline hc

/-- **A container is written as it is laid out**, if its items are. -/
theorem writes_container (h : List.Forall₂ Writes ps texts) {opener closer : Char}
    (hopener : isLineBoundary opener = false) (hcloser : isLineBoundary closer = false) :
    (container n opener closer ps).Writes (bracket (.upTo n) opener closer texts) := by
  have hbroken := isBroken_container (n := n) h opener closer
  rw [bracket]
  cases hfits : fits (.upTo n) texts with
  | true =>
    rw [hfits] at hbroken
    exact writes_container_of_flat h hopener hcloser hbroken
  | false =>
    rw [hfits] at hbroken
    exact writes_container_of_broken h hopener hcloser hbroken

end Items

/-! ### Tuples with one item and entries -/

theorem writes_single {p : Printed} {text : List Char} (h : p.Writes text) :
    (single p).Writes ('(' :: text ++ [',', ')']) where
  neat := by
    rw [List.append_cons]
    exact .append_right (.append (.cons_of_not (by decide) h.neat.plain)
      (.cons_of_not (by decide) nofun)) (.singleton (by decide))
  isBroken := by
    change p.isBroken = _
    rw [h.isBroken]
    simp
  flat hflat := by
    change '(' :: p.flat ++ [',', ')'] = _
    rw [h.flat hflat]
  written level := by
    change signText ([.char '('] ++ p.written level ++ [.char ',', .char ')']) = _
    rw [signText_append, signText_append, h.written, List.cons_append, hang_cons (by decide),
      hang_append]
    rfl
  lineFeed_notMem level := by
    have hitem := h.lineFeed_notMem level
    simpa [single] using hitem

theorem writes_entry {p q : Printed} {key value : List Char} (hp : p.Writes key)
    (hq : q.Writes value) : (entry p q).Writes (key ++ ':' :: ' ' :: value) where
  neat := by
    rw [List.append_cons, List.append_cons]
    exact .append_right (.append (.append hp.neat.plain (.cons_of_not (by decide) nofun))
      (.cons_of_not (by decide) nofun)) hq.neat
  isBroken := by
    change (p.isBroken || q.isBroken) = _
    rw [hp.isBroken, hq.isBroken]
    simp
  flat hflat := by
    obtain ⟨hkey, hvalue⟩ := Bool.or_eq_false_iff.mp hflat
    change p.flat ++ ':' :: ' ' :: q.flat = _
    rw [hp.flat hkey, hq.flat hvalue]
  written level := by
    change signText (p.written level ++ ([.char ':', .char ' '] ++ q.written level)) = _
    rw [signText_append, signText_append, hp.written, hq.written, hang_append, hang_cons (by decide),
      hang_cons (by decide)]
    rfl
  lineFeed_notMem level := by
    have hkey := hp.lineFeed_notMem level
    have hvalue := hq.lineFeed_notMem level
    simpa [entry, not_or] using ⟨hkey, hvalue⟩

end Printed

namespace Outline

theorem printedAll_eq_map (n : Nat) (os : List Outline) : printedAll n os = os.map (printed n) := by
  induction os with
  | nil => rfl
  | cons o os ih => rw [printedAll, ih, List.map_cons]

theorem printedEntries_eq_map (n : Nat) (es : List (Outline × Outline)) :
    printedEntries n es = es.map fun e => .entry (e.1.printed n) (e.2.printed n) := by
  induction es with
  | nil => rfl
  | cons e es ih => rw [printedEntries, ih, List.map_cons]

/-- The names of an outline itself are neat, and it is no set with several members. -/
def IsTidy : Outline → Prop
  | leaf text => IsNeat text
  | set typeName [] => HasPlainLines typeName
  | set _ items | arranged items => items.length ≤ 1
  | _ => True

instance : DecidablePred IsTidy
  | leaf text => inferInstanceAs (Decidable (IsNeat text))
  | set typeName [] => inferInstanceAs (Decidable (HasPlainLines typeName))
  | set _ (o :: os) => inferInstanceAs (Decidable ((o :: os).length ≤ 1))
  | arranged items => inferInstanceAs (Decidable (items.length ≤ 1))
  | circular | cut | list _ | tuple _ | mapping _ => inferInstanceAs (Decidable True)

theorem forall₂_writes {n : Nat} {os : List Outline}
    (h : ∀ o ∈ os, (o.printed n).Writes (o.layout (.upTo n))) :
    List.Forall₂ Printed.Writes (printedAll n os) (layoutAll (.upTo n) os) := by
  rw [printedAll_eq_map, layoutAll_eq_map, List.forall₂_map_left_iff, List.forall₂_map_right_iff,
    List.forall₂_same]
  exact h

/-- **Laying out from the inside out is printing from the outside in.** -/
theorem writes_layout {o : Outline} (h : o.Throughout IsTidy) (n : Nat) :
    (o.printed n).Writes (o.layout (.upTo n)) := by
  induction h with
  | @intro o htidy _ ih =>
    cases o with
    | leaf text => exact Printed.writes_name htidy
    | circular => exact Printed.writes_name isNeat_circularText
    | cut => exact Printed.writes_name isNeat_cutText
    | list items =>
      rw [printed, layout]
      exact Printed.writes_container (forall₂_writes ih) rfl rfl
    | tuple items =>
      rcases items with _ | ⟨one, _ | ⟨two, os⟩⟩
      · exact Printed.writes_container (forall₂_writes ih) rfl rfl
      · exact Printed.writes_single (ih one (List.mem_singleton.mpr rfl))
      · exact Printed.writes_container (forall₂_writes ih) rfl rfl
    | set typeName items =>
      cases items with
      | nil =>
        have hshort : ([] : List Outline).length ≤ 1 := Nat.zero_le 1
        rw [printed, layout, mergeSort_layoutAll hshort]
        exact Printed.writes_name (.append_right htidy isNeat_parentheses)
      | cons o os =>
        rw [printed, layout, mergeSort_layoutAll htidy]
        exact Printed.writes_container (forall₂_writes ih) rfl rfl
    | arranged items =>
      rw [printed, layout]
      exact Printed.writes_container (forall₂_writes ih) rfl rfl
    | mapping entries =>
      rw [printed, layout]
      refine Printed.writes_container ?_ rfl rfl
      rw [printedEntries_eq_map, layoutEntries_eq_map, List.forall₂_map_left_iff,
        List.forall₂_map_right_iff, List.forall₂_same]
      intro e he
      obtain ⟨hkey, hvalue⟩ := forall_mem_parts_mapping.mp ih e he
      exact Printed.writes_entry hkey hvalue

end Outline

end ValueShape
