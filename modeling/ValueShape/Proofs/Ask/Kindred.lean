import ValueShape.Proofs.Ask.Parallel
import ValueShape.Proofs.Ask.Plain
import ValueShape.Proofs.Conduct.Container

/-!
# Values of the same shape

A predicate that is composed of the checks of the library does not tell a list from a tuple with the
same elements, nor one kind of mapping from another one with the same entries, at any depth.

* `Value.Composed I N p` says that `p` is a leaf, or built on such callables by checks other than the
  one for the objects of a class.  Literals are primitive values, and all names of fields belong to `N`.
* `Value.Kindred host c I N I₁ I₂ E x y` says that `x` and `y` are the same primitive value, arrays
  whose elements are related by `E`, or mappings with the same keys in the same order and values that
  are related by `E`; or the same value of any other sort, if what composed predicates say about it is
  the same whenever they are asked.  The relation `E` may lead back to `x` and `y`: values may be inside
  themselves.
* `Value.Composed.treatsAlike` is the main result: composed predicates agree about values that are
  related by such an `E`.
-/

set_option autoImplicit false

namespace ValueShape

open Run

/-! ## Computations that can be repeated -/

/-- A computation gives the same whenever it is carried out, as long as an invariant holds, and it
leaves all cells as they are that are known to be in their places. -/
def Run.Repeatable {α : Type} (c : Conduct) (I : Session → Prop) (m : Run α) : Prop :=
  ∀ cells cells', Blind c (Session.Both (Session.Holding I cells) (Session.Holding I cells')) m

/-- How the keys of a mapping answer: comparing them with names can be repeated, and so can looking
them up among names. -/
structure Run.KeysAnswer (c : Conduct) (I : Session → Prop) (N : Name → Prop)
    (keys : List (Key Value)) : Prop where
  /-- They are values that a caller can hold. -/
  identified (key : Key Value) (hkey : key ∈ keys) : key.value.isIdentified = true
  /-- They are compared with a name. -/
  compares (key : Key Value) (hkey : key ∈ keys) (name : Name) (hname : N name) :
    Repeatable c I (equivalent key.value (.ofName name))
  /-- They are looked up among names. -/
  looksUp (key : Key Value) (hkey : key ∈ keys) (names : List Name) (hnames : ∀ k ∈ names, N k) :
    Repeatable c I (containsMember (names.map Name.key) key.value)

/-! ## Predicates -/

/-- A primitive value whose class is, and stays, that of no container. -/
structure Value.ServesAsLiteral (I : Session → Prop) (l : Value) : Prop where
  /-- It is primitive. -/
  primitive : l.IsPrimitive
  /-- Its class stays. -/
  ofClass : ∃ cls, (∀ k ∈ Kind.containers, cls ≠ .kind k) ∧ ∀ s, I s → s.heap.classOf l = cls

/-- A check looks at the shape of a value only: its literals are primitive, and the names of its fields
are known. -/
def Check.LooksAtShape {κ : Type} (I : Session → Prop) (N : Name → Prop) : Check κ Value → Prop
  | .object fields allowed => (∀ field ∈ fields, N field.1) ∧
      ∀ keys ∈ allowed, ∃ names : List Name, keys = names.map Name.key ∧ ∀ k ∈ names, N k
  | .literal l => l.ServesAsLiteral I
  | .literals ls => ∀ l ∈ ls, l.ServesAsLiteral I
  | .instanceOf _ => False
  | _ => True

/-- A callable is composed of leaves by checks that look at the shape of a value only. -/
inductive Value.Composed (I : Session → Prop) (N : Name → Prop) : Value → Prop
  /-- A leaf. -/
  | leaf (l : Leaf) : Composed I N (.leaf l)
  /-- A predicate that something composed decides for. -/
  | predicate (id : Nat) (name : Name) (facets : Facets) {decider : Value}
      (hdecider : Composed I N decider) : Composed I N (.predicate id name facets decider)
  /-- A check that asks what is composed. -/
  | rule (id : Nat) {check : Rule} (hcheck : check.LooksAtShape I N)
      (hparts : ∀ f ∈ check.callables, Composed I N f) : Composed I N (.rule id check)

/-! ## Values -/

/-- Two values have the same shape: the same primitive value, two arrays or two mappings, each where its
own invariant holds.  What stands inside them is related by `E`. -/
inductive Value.Resembles (c : Conduct) (I : Session → Prop) (N : Name → Prop)
    (I₁ I₂ : Session → Prop) (E : Value → Value → Prop) : Value → Value → Prop
  /-- A primitive value. -/
  | primitive {v : Value} {k : Kind} (hk : k ∈ Kind.primitives)
      (hv : ∀ s, I s → s.heap.IsOrdinary k v) (hprimitive : v.IsPrimitive)
      (hid : v.isIdentified = true) : Resembles c I N I₁ I₂ E v v
  /-- Lists and tuples. -/
  | arrays {x y : Value} {xs ys : List Value} (hx : x.IsArrayOf I₁ xs) (hy : y.IsArrayOf I₂ ys)
      (hitems : List.Forall₂ E xs ys) : Resembles c I N I₁ I₂ E x y
  /-- Mappings. -/
  | mappings {x y : Value} {es es' : List Entry} (hx : x.IsMappingOf I₁ es)
      (hy : y.IsMappingOf I₂ es') (hentries : List.Forall₂ (fun e e' => e.1 = e'.1 ∧ E e.2 e'.2) es es')
      (hkeys : KeysAnswer c I N (es.map (·.1))) : Resembles c I N I₁ I₂ E x y

/-- Two values have the same shape, or they are one value that predicates answer for in the same way
whenever they are asked. -/
inductive Value.Kindred (host : Host) (c : Conduct) (I : Session → Prop) (N : Name → Prop)
    (I₁ I₂ : Session → Prop) (E : Value → Value → Prop) : Value → Value → Prop
  /-- Two values of the same shape. -/
  | resembling {x y : Value} (h : x.Resembles c I N I₁ I₂ E y) : Kindred host c I N I₁ I₂ E x y
  /-- Any other value. -/
  | other {v : Value} (hid : v.isIdentified = true)
      (hv : ∀ f, f.Composed I N → Repeatable c I ((Ask.asked host f).accepts v)) :
      Kindred host c I N I₁ I₂ E v v

section

variable {host : Host} {c : Conduct} {I I₁ I₂ J₁ J₂ : Session → Prop} {N : Name → Prop}
  {E E' : Value → Value → Prop} {x y : Value}

theorem Value.Resembles.mono (h : x.Resembles c I N I₁ I₂ E y) (h₁ : ∀ s, J₁ s → I₁ s)
    (h₂ : ∀ s, J₂ s → I₂ s) (hE : ∀ v w, E v w → E' v w) : x.Resembles c I N J₁ J₂ E' y := by
  cases h with
  | primitive hk hv hprimitive hid => exact .primitive hk hv hprimitive hid
  | arrays hx hy hitems => exact .arrays (hx.mono h₁) (hy.mono h₂) (hitems.imp hE)
  | mappings hx hy hentries hkeys =>
    exact .mappings (hx.mono h₁) (hy.mono h₂) (hentries.imp fun _ _ h => ⟨h.1, hE _ _ h.2⟩) hkeys

theorem Value.Kindred.mono (h : x.Kindred host c I N I₁ I₂ E y) (h₁ : ∀ s, J₁ s → I₁ s)
    (h₂ : ∀ s, J₂ s → I₂ s) (hE : ∀ v w, E v w → E' v w) : x.Kindred host c I N J₁ J₂ E' y := by
  cases h with
  | resembling h => exact .resembling (h.mono h₁ h₂ hE)
  | other hid hv => exact .other hid hv

theorem Value.Kindred.identified (h : x.Kindred host c I N I₁ I₂ E y) :
    x.isIdentified = true ∧ y.isIdentified = true := by
  cases h with
  | resembling h =>
    cases h with
    | primitive _ _ _ hid => exact ⟨hid, hid⟩
    | arrays hx hy => exact ⟨hx.identified, hy.identified⟩
    | mappings hx hy => exact ⟨hx.identified, hy.identified⟩
  | other hid => exact ⟨hid, hid⟩

theorem Value.Kindred.forall_identified
    (hE : ∀ x y, E x y → x.Kindred host c I N I₁ I₂ E y) {xs ys : List Value}
    (hitems : List.Forall₂ E xs ys) :
    (∀ v ∈ xs, v.isIdentified = true) ∧ ∀ w ∈ ys, w.isIdentified = true := by
  induction hitems with
  | nil => exact ⟨nofun, nofun⟩
  | cons h _ ih =>
    have hid := (hE _ _ h).identified
    exact ⟨List.forall_mem_cons.mpr ⟨hid.1, ih.1⟩, List.forall_mem_cons.mpr ⟨hid.2, ih.2⟩⟩

end

/-! ## What is read of them

Leaves and literals find out little about a value: whether it is an array, whether it is a mapping,
or which primitive value it is.  Two values of the same shape agree about that. -/

namespace Run

variable (c : Conduct) {I : Session → Prop} {s : Session} {x : Value}

/-- A container is no array unless its contents are the elements of one. -/
theorem exec_isArray_of_mem {k : Kind} (hv : s.heap.IsOrdinary k x)
    (hk : k ∈ Kind.primitives ++ Kind.containers) :
    exec c (Check.isArray x) s = .ok (s.heap.isArray x) s :=
  exec_isArray c (hv.readsAttributes_of_mem hk).1

theorem exec_isOfKind_of_mem {k : Kind} (hv : s.heap.IsOrdinary k x)
    (hk : k ∈ Kind.primitives ++ Kind.containers) (above : Kind) :
    exec c (isOfKind x above) s = .ok (Heap.start.hasKind (.kind k) above) s := by
  rw [exec_isOfKind c (hv.readsAttributes_of_mem hk).1, hv.isOfKind]

/-- No container matches a literal. -/
theorem exec_matchLiteral_container {k : Kind} (hv : s.heap.IsOrdinary k x)
    (hk : k ∈ Kind.containers) (hcontainer : x.isContainer = true) {l : Value}
    (hl : l.ServesAsLiteral I) (hs : I s) : exec c (matchLiteral x l) s = .ok (.bool false) s := by
  have hidentical : x.identical l = false := by
    cases x <;> first | exact absurd hcontainer Bool.false_ne_true |
      (rcases hl.primitive with hplain | rfl
       · cases l <;> first | rfl | exact absurd hplain Bool.false_ne_true
       · rfl)
  obtain ⟨cls, hne, hcls⟩ := hl.ofClass
  have hclass : (s.heap.classOf x != s.heap.classOf l) = true := by
    rw [hv.classOf, hcls s hs, bne_iff_ne]
    exact fun h => hne k hk h.symm
  rw [matchLiteral, hidentical, if_neg Bool.false_ne_true, exec_bind, exec_heap, Ending.andThen_ok,
    hclass]
  rfl

end Run

/-- Whether a primitive value matches a literal does not depend on anything else. -/
theorem Heap.matchesPlainly_congr {h h' : Heap} {k : Kind} {v l : Value} (hk : k ∈ Kind.primitives)
    (hv : h.IsOrdinary k v) (hv' : h'.IsOrdinary k v) (hl : h.classOf l = h'.classOf l) :
    h.matchesPlainly v l = h'.matchesPlainly v l := by
  rw [matchesPlainly, matchesPlainly, hv.classOf, hv'.classOf, ← hl]
  by_cases hclass : Class.kind k = h.classOf l
  · have hsame : ∀ a b, h.classOf a = .kind k → h'.classOf a = .kind k →
        h.plainlyEqual? a b = h'.plainlyEqual? a b := by
      intro a b ha ha'
      rw [plainlyEqual?, plainlyEqual?, slot?, slot?, ha, ha', hv.members.classSlot?,
        hv'.members.classSlot?]
      simp only [Kind.primitives, List.mem_cons, List.not_mem_nil, or_false] at hk
      rcases hk with rfl | rfl | rfl | rfl | rfl | rfl | rfl <;> rfl
    rw [hsame v l hv.classOf hv'.classOf, hsame l v hclass.symm (hl.symm.trans hclass.symm)]
  · have hnot : (Class.kind k == h.classOf l) = false := beq_eq_false_iff_ne.mpr hclass
    rw [hnot, Bool.false_and, Bool.false_and]

/-- A literal of the class of a primitive value is compared plainly. -/
theorem Heap.IsOrdinary.comparesPlainly {h : Heap} {k : Kind} {v l : Value} (hk : k ∈ Kind.primitives)
    (hv : h.IsOrdinary k v) (hl : h.classOf l = .kind k) : h.comparesPlainly l = true := by
  rw [Heap.comparesPlainly, Heap.slot?, hl, hv.members.classSlot?]
  simp only [Kind.primitives, List.mem_cons, List.not_mem_nil, or_false] at hk
  rcases hk with rfl | rfl | rfl | rfl | rfl | rfl | rfl <;> rfl

theorem Run.exec_matchLiteral_primitive (host : Host) (n : Nat) {s : Session} {k : Kind}
    {v l : Value} (hk : k ∈ Kind.primitives) (hv : s.heap.IsOrdinary k v) :
    exec (Ask.conduct host (n + 1)) (matchLiteral v l) s =
      .ok (.bool (s.heap.matchesPlainly v l)) s := by
  by_cases hl : s.heap.classOf l = .kind k
  · exact exec_matchLiteral host n (hv.comparesPlainly hk hl)
  · have hclass : (s.heap.classOf v != s.heap.classOf l) = true := by
      rw [hv.classOf, bne_iff_ne]
      exact fun h => hl h.symm
    have hnot : (s.heap.classOf v == s.heap.classOf l) = false := by simpa using hclass
    rw [matchLiteral, Heap.matchesPlainly, hnot]
    cases v.identical l with
    | true => rfl
    | false =>
      rw [if_neg Bool.false_ne_true, exec_bind, exec_heap, Ending.andThen_ok, hclass]
      rfl

namespace Value.Resembles

variable {host : Host} {n : Nat} {c : Conduct} {I I₁ I₂ : Session → Prop} {N : Name → Prop}
  {E : Value → Value → Prop} {x y : Value} (h : x.Resembles c I N I₁ I₂ E y)
  (hI₁ : Session.Spacious I₁) (hI₂ : Session.Spacious I₂) (h₁ : ∀ s, I₁ s → I s)
  (h₂ : ∀ s, I₂ s → I s)
include h

theorem identical_undefined : x.identical .undefined = y.identical .undefined := by
  cases h with
  | primitive => rfl
  | arrays hx hy =>
    have hx := hx.isContainer
    have hy := hy.isContainer
    cases x <;> first | exact absurd hx Bool.false_ne_true |
      (cases y <;> first | exact absurd hy Bool.false_ne_true | rfl)
  | mappings hx hy =>
    have hx := hx.isContainer
    have hy := hy.isContainer
    cases x <;> first | exact absurd hx Bool.false_ne_true |
      (cases y <;> first | exact absurd hy Bool.false_ne_true | rfl)

include hI₁ hI₂ h₁ h₂

/-- Both values are arrays, or none is. -/
theorem isArray :
    ((∀ s, I₁ s → exec c (Check.isArray x) s = .ok false s) ∧
      ∀ s, I₂ s → exec c (Check.isArray y) s = .ok false s) ∨
    ∃ xs ys, x.IsArrayOf I₁ xs ∧ y.IsArrayOf I₂ ys ∧ List.Forall₂ E xs ys := by
  cases h with
  | @primitive k hk hv hprimitive hid =>
    have hnone : ∀ s, I s → exec c (Check.isArray x) s = .ok false s := by
      intro s hs
      rw [exec_isArray_of_mem c (hv s hs) (List.mem_append_left _ hk), Heap.isArray]
      rcases hprimitive with hplain | rfl
      · cases x <;> first | rfl | exact absurd hplain Bool.false_ne_true
      · rfl
    exact .inl ⟨fun s hs => hnone s (h₁ s hs), fun s hs => hnone s (h₂ s hs)⟩
  | arrays hx hy hitems => exact .inr ⟨_, _, hx, hy, hitems⟩
  | mappings hx hy =>
    obtain ⟨k, hk, -, hordinary⟩ := hx.isOrdinary hI₁
    obtain ⟨k', hk', -, hordinary'⟩ := hy.isOrdinary hI₂
    refine .inl ⟨fun s hs => ?_, fun s hs => ?_⟩
    · rw [exec_isArray_of_mem c (hordinary s hs) (List.mem_append_right _ hk), hx.isArray hs]
    · rw [exec_isArray_of_mem c (hordinary' s hs) (List.mem_append_right _ hk'), hy.isArray hs]

/-- Both values are mappings, or none is. -/
theorem isMapping :
    ((∀ s, I₁ s → exec c (isOfKind x .mapping) s = .ok false s) ∧
      ∀ s, I₂ s → exec c (isOfKind y .mapping) s = .ok false s) ∨
    ∃ es es', x.IsMappingOf I₁ es ∧ y.IsMappingOf I₂ es' ∧
      List.Forall₂ (fun e e' => e.1 = e'.1 ∧ E e.2 e'.2) es es' ∧
      KeysAnswer c I N (es.map (·.1)) := by
  cases h with
  | @primitive k hk hv hprimitive hid =>
    have hnone : ∀ s, I s → exec c (isOfKind x .mapping) s = .ok false s := by
      intro s hs
      rw [exec_isOfKind_of_mem c (hv s hs) (List.mem_append_left _ hk)]
      simp only [Kind.primitives, List.mem_cons, List.not_mem_nil, or_false] at hk
      rcases hk with rfl | rfl | rfl | rfl | rfl | rfl | rfl <;> rfl
    exact .inl ⟨fun s hs => hnone s (h₁ s hs), fun s hs => hnone s (h₂ s hs)⟩
  | arrays hx hy =>
    obtain ⟨k, hk, hnot, hordinary⟩ := hx.isOrdinary hI₁
    obtain ⟨k', hk', hnot', hordinary'⟩ := hy.isOrdinary hI₂
    refine .inl ⟨fun s hs => ?_, fun s hs => ?_⟩
    · rw [exec_isOfKind_of_mem c (hordinary s hs) (List.mem_append_right _ hk), hnot]
    · rw [exec_isOfKind_of_mem c (hordinary' s hs) (List.mem_append_right _ hk'), hnot']
  | mappings hx hy hentries hkeys => exact .inr ⟨_, _, hx, hy, hentries, hkeys⟩

/-- Leaves agree about both values. -/
theorem agrees_leaf (host : Host) (l : Leaf) :
    Check.Agrees (fun f => (Ask.asked host f).accepts) c (Session.Both I₁ I₂) (.leaf l) x y := by
  cases h with
  | @primitive k hk hv hprimitive hid =>
    rintro s s' ⟨hs, hs'⟩
    have hv₁ := hv s (h₁ s hs)
    have hv₂ := hv s' (h₂ s' hs')
    obtain ⟨hread₁, hcall₁⟩ := hv₁.readsAttributes_of_mem (List.mem_append_left _ hk)
    obtain ⟨hread₂, hcall₂⟩ := hv₂.readsAttributes_of_mem (List.mem_append_left _ hk)
    rw [exec_accepts_leaf host c hread₁ hcall₁, exec_accepts_leaf host c hread₂ hcall₂,
      Leaf.test_primitive hv₁ hv₂ hk hprimitive]
    exact .ok rfl ⟨hs, hs'⟩
  | arrays hx hy =>
    obtain ⟨k, hk, hnot, hordinary⟩ := hx.isOrdinary hI₁
    obtain ⟨k', hk', hnot', hordinary'⟩ := hy.isOrdinary hI₂
    rintro s s' ⟨hs, hs'⟩
    obtain ⟨hread₁, hcall₁⟩ := (hordinary s hs).readsAttributes_of_mem (List.mem_append_right _ hk)
    obtain ⟨hread₂, hcall₂⟩ := (hordinary' s' hs').readsAttributes_of_mem (List.mem_append_right _ hk')
    rw [exec_accepts_leaf host c hread₁ hcall₁, exec_accepts_leaf host c hread₂ hcall₂,
      Leaf.test_container (hordinary s hs) hk hx.isContainer,
      Leaf.test_container (hordinary' s' hs') hk' hy.isContainer, hx.isArray hI₁ hs,
      hy.isArray hI₂ hs', (hordinary s hs).isOfKind, (hordinary' s' hs').isOfKind, hnot, hnot']
    exact .ok rfl ⟨hs, hs'⟩
  | mappings hx hy =>
    obtain ⟨k, hk, hmapping, hordinary⟩ := hx.isOrdinary hI₁
    obtain ⟨k', hk', hmapping', hordinary'⟩ := hy.isOrdinary hI₂
    rintro s s' ⟨hs, hs'⟩
    obtain ⟨hread₁, hcall₁⟩ := (hordinary s hs).readsAttributes_of_mem (List.mem_append_right _ hk)
    obtain ⟨hread₂, hcall₂⟩ := (hordinary' s' hs').readsAttributes_of_mem (List.mem_append_right _ hk')
    rw [exec_accepts_leaf host c hread₁ hcall₁, exec_accepts_leaf host c hread₂ hcall₂,
      Leaf.test_container (hordinary s hs) hk hx.isContainer,
      Leaf.test_container (hordinary' s' hs') hk' hy.isContainer, hx.isArray hs, hy.isArray hs',
      (hordinary s hs).isOfKind, (hordinary' s' hs').isOfKind, hmapping, hmapping']
    exact .ok rfl ⟨hs, hs'⟩

end Value.Resembles

/-- Both values match a literal, or none does. -/
theorem Value.Resembles.matchLiteral {host : Host} {n : Nat} {I I₁ I₂ : Session → Prop}
    {N : Name → Prop} {E : Value → Value → Prop} {x y : Value}
    (h : x.Resembles (Ask.conduct host (n + 1)) I N I₁ I₂ E y) (hI₁ : Session.Spacious I₁)
    (hI₂ : Session.Spacious I₂) (h₁ : ∀ s, I₁ s → I s) (h₂ : ∀ s, I₂ s → I s) {l : Value}
    (hl : l.ServesAsLiteral I) :
    Parallel (Ask.conduct host (n + 1)) (Session.Both I₁ I₂) (fun v w => ∃ b, v = .bool b ∧ w = .bool b)
      (matchLiteral x l) (matchLiteral y l) := by
  have hnone {k k' : Kind} (hk : k ∈ Kind.containers) (hk' : k' ∈ Kind.containers)
      (hx : ∀ s, I₁ s → s.heap.IsOrdinary k x) (hy : ∀ s, I₂ s → s.heap.IsOrdinary k' y)
      (hcontainer : x.isContainer = true) (hcontainer' : y.isContainer = true) :
      Parallel (Ask.conduct host (n + 1)) (Session.Both I₁ I₂)
        (fun v w => ∃ b, v = .bool b ∧ w = .bool b) (Run.matchLiteral x l) (Run.matchLiteral y l) := by
    rintro s s' ⟨hs, hs'⟩
    rw [exec_matchLiteral_container _ (hx s hs) hk hcontainer hl (h₁ s hs),
      exec_matchLiteral_container _ (hy s' hs') hk' hcontainer' hl (h₂ s' hs')]
    exact .ok ⟨false, rfl, rfl⟩ ⟨hs, hs'⟩
  cases h with
  | @primitive k hk hv hprimitive hid =>
    rintro s s' ⟨hs, hs'⟩
    obtain ⟨cls, -, hcls⟩ := hl.ofClass
    have hsame : s.heap.classOf l = s'.heap.classOf l := by
      rw [hcls s (h₁ s hs), hcls s' (h₂ s' hs')]
    rw [exec_matchLiteral_primitive host n hk (hv s (h₁ s hs)),
      exec_matchLiteral_primitive host n hk (hv s' (h₂ s' hs')),
      Heap.matchesPlainly_congr hk (hv s (h₁ s hs)) (hv s' (h₂ s' hs')) hsame]
    exact .ok ⟨_, rfl, rfl⟩ ⟨hs, hs'⟩
  | arrays hx hy =>
    obtain ⟨k, hk, -, hordinary⟩ := hx.isOrdinary hI₁
    obtain ⟨k', hk', -, hordinary'⟩ := hy.isOrdinary hI₂
    exact hnone hk hk' hordinary hordinary' hx.isContainer hy.isContainer
  | mappings hx hy =>
    obtain ⟨k, hk, -, hordinary⟩ := hx.isOrdinary hI₁
    obtain ⟨k', hk', -, hordinary'⟩ := hy.isOrdinary hI₂
    exact hnone hk hk' hordinary hordinary' hx.isContainer hy.isContainer

/-! ## Readings side by side -/

namespace Run

variable {c : Conduct} {R : Session → Session → Prop} {E : Value → Value → Prop}

theorem Blind.allM {α : Type} {p : α → Run Bool} {as : List α} (h : ∀ a ∈ as, Blind c R (p a)) :
    Blind c R (as.allM p) := by
  induction as with
  | nil => exact .pure true
  | cons a as ih =>
    obtain ⟨ha, has⟩ := List.forall_mem_cons.mp h
    rw [List.allM]
    refine ha.bind fun b _ _ _ _ _ => ?_
    cases b with
    | true => exact ih has
    | false => exact .pure false

/-- What is made of the keys of two mappings with the same keys is the same. -/
theorem map_keys_eq {β : Type} {es es' : List Entry}
    (hentries : List.Forall₂ (fun e e' => e.1 = e'.1 ∧ E e.2 e'.2) es es') (f : Key Value → β) :
    es'.map (fun e => f e.1) = es.map fun e => f e.1 := by
  induction hentries with
  | nil => rfl
  | cons h _ ih => rw [List.map_cons, List.map_cons, ih, h.1]

/-- The values under a key of two mappings with the same keys are related. -/
theorem entryUnder_parallel {es es' : List Entry}
    (hentries : List.Forall₂ (fun e e' => e.1 = e'.1 ∧ E e.2 e'.2) es es') {key : Key Value}
    (hkeys : ∀ stored ∈ es.map (·.1), Blind c R (isKey key stored)) :
    Parallel c R (Option.Rel E) (entryUnder? key es) (entryUnder? key es') := by
  induction hentries with
  | nil => exact .pure .none
  | @cons e e' es es' he _ ih =>
    obtain ⟨stored, v⟩ := e
    obtain ⟨stored', v'⟩ := e'
    obtain ⟨rfl, hv⟩ := he
    obtain ⟨hkey, hkeys⟩ := List.forall_mem_cons.mp hkeys
    rw [entryUnder?, entryUnder?]
    refine (Parallel.of_blind hkey).bind fun b b' hb => ?_
    subst hb
    cases b with
    | true => exact .pure (.some hv)
    | false => exact ih hkeys

section Both

variable {I : Session → Prop} {N : Name → Prop} {cells cells' : List (Nat × Cell)} {x y : Value}

/-- The values under a name are related, or both are missing. -/
theorem get_parallel (hI : Session.Spacious I) {es es' : List Entry}
    (hx : x.IsMappingOf (Session.Holding I cells) es)
    (hy : y.IsMappingOf (Session.Holding I cells') es')
    (hentries : List.Forall₂ (fun e e' => e.1 = e'.1 ∧ E e.2 e'.2) es es')
    (hkeys : KeysAnswer c I N (es.map (·.1))) {name : Name} (hname : N name)
    (hhash : Repeatable c I (hash (.ofName name))) :
    Parallel c (Session.Both (Session.Holding I cells) (Session.Holding I cells'))
      (fun v w => E v w ∨ v = .undefined ∧ w = .undefined) (Glance.get x name).read
      (Glance.get y name).read := by
  obtain ⟨place, hplace, hget⟩ := hx.exec_getValue (c := c) (hI.holding cells)
  obtain ⟨place', hplace', hget'⟩ := hy.exec_getValue (c := c) (hI.holding cells')
  intro s s' hs
  rw [Glance.read, Glance.read, hget s hs.1, hget' s' hs.2]
  refine (?_ : Parallel c _ _ _ _) s s' hs
  rw [keyed, bind_assoc, bind_assoc]
  refine (Parallel.of_blind (hhash cells cells')).bind fun h h' hh => ?_
  subst hh
  rw [pure_bind, pure_bind]
  have hes : ∀ s, Session.Holding I cells s → Settles c (Session.Holding I cells) s heap
      fun t _ => t.entries? (.ref place) = some es :=
    fun s hs => .of_exec_self hs (exec_heap c s) (hplace s hs)
  have hes' : ∀ s, Session.Holding I cells' s → Settles c (Session.Holding I cells') s heap
      fun t _ => t.entries? (.ref place') = some es' :=
    fun s hs => .of_exec_self hs (exec_heap c s) (hplace' s hs)
  refine (Parallel.of_settles hes hes').bind fun t t' ht => ?_
  rw [ht.1, ht.2, Option.getD_some, Option.getD_some]
  refine (entryUnder_parallel hentries fun stored hstored => ?_).bind fun v w hvw => ?_
  · rw [isKey]
    split
    · exact hkeys.compares stored hstored name hname cells cells'
    · exact .pure false
  · cases hvw with
    | none => exact .pure (.inr ⟨rfl, rfl⟩)
    | some hvw => exact .pure (.inl hvw)

/-- The lengths of two arrays with the same number of elements. -/
theorem size_parallel {I₁ I₂ : Session → Prop} (hI₁ : Session.Spacious I₁)
    (hI₂ : Session.Spacious I₂) {xs ys : List Value} (hx : x.IsArrayOf I₁ xs)
    (hy : y.IsArrayOf I₂ ys) (hlength : xs.length = ys.length) :
    Parallel c (Session.Both I₁ I₂)
      (fun a b => a = xs.length ∧ b = ys.length ∧ xs.length < maxIndex) (size x) (size y) := by
  rintro s s' ⟨hs, hs'⟩
  have hx := hx.readsPlainly hI₁ hs (m := .length) (by simp)
  have hy := hy.readsPlainly hI₂ hs' (m := .length) (by simp)
  by_cases hlt : xs.length < maxIndex
  · rw [exec_size c hx hlt, exec_size c hy (hlength ▸ hlt)]
    exact .ok ⟨rfl, rfl, hlt⟩ ⟨hs, hs'⟩
  · have hle := Nat.not_lt.mp hlt
    rw [exec_size_error c hx hle, exec_size_error c hy (hlength ▸ hle)]
    exact .error ⟨hs, hs'⟩

end Both

end Run

/-! ## Predicates and what they are asked about

`Value.TreatsAlike` is the hypothesis of the induction on composed predicates.  It has to be about
all kindred values at once, since a predicate asks others about the parts of what it is given. -/

/-- The answers to a query are the same about any two values that are kindred. -/
def Query.TreatsAlike (host : Host) (c : Conduct) (I : Session → Prop) (N : Name → Prop)
    (q : Query Value) : Prop :=
  ∀ cells cells' (E : Value → Value → Prop), (∀ x y, E x y →
      x.Kindred host c I N (Session.Holding I cells) (Session.Holding I cells') E y) →
    ∀ x y, E x y → Check.Agrees (Ask.answer host) c
      (Session.Both (Session.Holding I cells) (Session.Holding I cells')) q x y

/-- A callable answers the same about any two values that are kindred. -/
def Value.TreatsAlike (host : Host) (c : Conduct) (I : Session → Prop) (N : Name → Prop)
    (f : Value) : Prop :=
  (⟨.plain, f⟩ : Query Value).TreatsAlike host c I N

/-- A callable does so in every manner if its answers are told. -/
theorem Value.TreatsAlike.query {host : Host} {c : Conduct} {I : Session → Prop} {N : Name → Prop}
    {f : Value} (hf : f.TreatsAlike host c I N) (htold : (Ask.asked host f).IsTold) (m : Manner) :
    (⟨m, f⟩ : Query Value).TreatsAlike host c I N := by
  intro cells cells' E hE x y hxy
  have hyielded := (hf cells cells' E hE x y hxy).yielded
  cases m with
  | plain => exact hf cells cells' E hE x y hxy
  | yielding =>
    have hanswer (v : Value) : Ask.answer host ⟨.yielding, f⟩ v = yielded (Ask.answer host ⟨.plain, f⟩ v) :=
      htold v
    rw [Check.Agrees, hanswer, hanswer]
    exact hyielded
  | inside =>
    have hanswer (v : Value) : Ask.answer host ⟨.inside, f⟩ v = yielded (Ask.answer host ⟨.plain, f⟩ v) :=
      Asked.accepts_inside _ v
    rw [Check.Agrees, hanswer, hanswer]
    exact hyielded

namespace Query.TreatsAlike

variable {host : Host} {c : Conduct} {I : Session → Prop} {N : Name → Prop} {q : Query Value}

/-- The absent value is kindred to itself. -/
theorem undefined (hI : Session.Spacious I) (hq : q.TreatsAlike host c I N)
    (cells cells' : List (Nat × Cell)) :
    Check.Agrees (Ask.answer host) c
      (Session.Both (Session.Holding I cells) (Session.Holding I cells')) q .undefined .undefined := by
  refine hq cells cells' (fun v w => v = .undefined ∧ w = .undefined) ?_ _ _ ⟨rfl, rfl⟩
  rintro x y ⟨rfl, rfl⟩
  exact .resembling (.primitive (k := .undefined) (by decide) (fun _ hs => hI.absent hs) (.inr rfl) rfl)

end Query.TreatsAlike

theorem Value.TreatsAlike.predicate {host : Host} {c : Conduct} {I : Session → Prop} {N : Name → Prop}
    {f : Value} (id : Nat) (name : Name) (facets : Facets) (hf : f.TreatsAlike host c I N) :
    (Value.predicate id name facets f).TreatsAlike host c I N := by
  intro cells cells' E hE x y hxy
  have hf := hf cells cells' E hE x y hxy
  have hanswer (v : Value) : Ask.answer host ⟨.plain, .predicate id name facets f⟩ v =
      Ask.answer host ⟨.plain, f⟩ v := Ask.accepts_predicate host id name facets f v
  rw [Check.Agrees, hanswer, hanswer]
  exact hf

namespace Check

variable {host : Host} {c : Conduct} {I : Session → Prop} {N : Name → Prop} (hI : Session.Spacious I)
  {cells cells' : List (Nat × Cell)} {E : Value → Value → Prop}
  (hE : ∀ x y, E x y →
    x.Kindred host c I N (Session.Holding I cells) (Session.Holding I cells') E y)
  {x y : Value}
include hI hE

open Dialogue

/-! ### Arrays

What remains of an array is a new one.  Its place becomes part of the invariant before anything is
asked about it. -/

section Arrays

variable {xs ys : List Value} (hx : x.IsArrayOf (Session.Holding I cells) xs)
  (hy : y.IsArrayOf (Session.Holding I cells') ys) (hitems : List.Forall₂ E xs ys)
include hx hy hitems

/-- What remains of two arrays is kindred again.  It may be a new list, which is in its place from then
on. -/
theorem restDialogue_parallel {rest : Option (Query Value)}
    (hrest : ∀ f ∈ rest, f.TreatsAlike host c I N) (n : Nat) :
    Parallel c (Session.Both (Session.Holding I cells) (Session.Holding I cells')) Eq
      ((restDialogue rest x n).run (Ask.answer host))
      ((restDialogue rest y n).run (Ask.answer host)) := by
  rcases rest with _ | f
  · exact .pure rfl
  rintro s s' ⟨hs, hs'⟩
  obtain ⟨w, s₁, more, hw, hs₁, hxs⟩ := hx.exec_dropFirst (c := c) hI hs n
  obtain ⟨w', s₁', more', hw', hs₁', hys⟩ := hy.exec_dropFirst (c := c) hI hs' n
  have hweaken {more cells : List (Nat × Cell)} (t : Session)
      (ht : Session.Holding I (more ++ cells) t) : Session.Holding I cells t :=
    ⟨ht.1, fun d hd => ht.2 d (List.mem_append_right _ hd)⟩
  have hanswer := hrest f rfl (more ++ cells) (more' ++ cells')
    (fun v v' => E v v' ∨ v = w ∧ v' = w') ?_ w w' (.inr ⟨rfl, rfl⟩)
  · rw [restDialogue, restDialogue, run_look, run_look, exec_bind, exec_bind, Look.read, Look.read,
      hw, hw', Ending.andThen_ok, Ending.andThen_ok, run_asking, run_asking]
    exact (hanswer s₁ s₁' ⟨hs₁, hs₁'⟩).mono (fun t t' ht => ⟨hweaken t ht.1, hweaken t' ht.2⟩)
      fun _ _ h => h
  · rintro v v' (hvv' | ⟨rfl, rfl⟩)
    · exact (hE v v' hvv').mono hweaken hweaken fun _ _ h => .inl h
    · exact .resembling (.arrays hxs hys ((List.forall₂_drop n hitems).imp fun _ _ h => .inl h))

omit hE hitems in
/-- A dialogue about two arrays goes on after it has been found out that they are arrays. -/
theorem look_array_parallel {d d' : Dialogue (Query Value) Bool}
    (hd : Parallel c (Session.Both (Session.Holding I cells) (Session.Holding I cells')) Eq
      (d.run (Ask.answer host)) (d'.run (Ask.answer host))) :
    Parallel c (Session.Both (Session.Holding I cells) (Session.Holding I cells')) Eq
      ((look (.array x) fun (b : Bool) => if b then d else done false).run (Ask.answer host))
      ((look (.array y) fun (b : Bool) => if b then d' else done false).run (Ask.answer host)) := by
  rw [run_look, run_look]
  exact whether_parallel (fun s hs => hx.exec_isArray (hI.holding cells) c hs)
    (fun s hs => hy.exec_isArray (hI.holding cells') c hs) fun _ => hd

omit hE hitems in
/-- The iterations over two arrays. -/
theorem look_cursor_parallel {k k' : Cursor → Dialogue (Query Value) Bool}
    (hk : Parallel c (Session.Both (Session.Holding I cells) (Session.Holding I cells')) Eq
      ((k (arrayCursor xs x)).run (Ask.answer host))
      ((k' (arrayCursor ys y)).run (Ask.answer host))) :
    Parallel c (Session.Both (Session.Holding I cells) (Session.Holding I cells')) Eq
      ((look (.cursor x) k).run (Ask.answer host))
      ((look (.cursor y) k').run (Ask.answer host)) := by
  have hread : ∀ s, Session.Holding I cells s → Settles c (Session.Holding I cells) s (cursor x)
      fun cur _ => cur = arrayCursor xs x := fun s hs =>
    .of_exec_self hs (exec_cursor c (hx.readsPlainly (hI.holding cells) hs (by simp))) rfl
  have hread' : ∀ s, Session.Holding I cells' s → Settles c (Session.Holding I cells') s (cursor y)
      fun cur _ => cur = arrayCursor ys y := fun s hs =>
    .of_exec_self hs (exec_cursor c (hy.readsPlainly (hI.holding cells') hs (by simp))) rfl
  rw [run_look, run_look]
  refine (Parallel.of_settles hread hread').bind fun cur cur' hcur => ?_
  obtain ⟨rfl, rfl⟩ := hcur
  exact hk

/-- A callable about all elements. -/
theorem array_parallel {f : Query Value} (hf : f.TreatsAlike host c I N) :
    Parallel c (Session.Both (Session.Holding I cells) (Session.Holding I cells')) Eq
      (((array f).dialogue x).run (Ask.answer host))
      (((array f).dialogue y).run (Ask.answer host)) := by
  obtain ⟨hid, hid'⟩ := Value.Kindred.forall_identified hE hitems
  obtain ⟨hcur, hroom⟩ := hx.iterates (c := c) hid
  obtain ⟨hcur', hroom'⟩ := hy.iterates (c := c) hid'
  refine look_array_parallel hI hx hy (look_cursor_parallel hI hx hy ?_)
  have hlimit : ∀ s, Session.Holding I cells s → Settles c (Session.Holding I cells) s
      (limit (arrayCursor xs x)) fun n _ => xs.length < n :=
    fun s hs => .of_exec_self hs (exec_limit c _) (hroom s hs)
  have hlimit' : ∀ s, Session.Holding I cells' s → Settles c (Session.Holding I cells') s
      (limit (arrayCursor ys y)) fun n _ => ys.length < n :=
    fun s hs => .of_exec_self hs (exec_limit c _) (hroom' s hs)
  rw [run_look, run_look]
  refine (Parallel.of_settles hlimit hlimit').bind fun fuel fuel' hfuel => ?_
  exact elementsDialogue_parallel (hitems.imp fun v w hvw => hf cells cells' E hE v w hvw) hcur hcur'
    hfuel.1 hfuel.2

/-- Callables about the positions, and what remains. -/
theorem tuple_parallel {fs : List (Query Value)} {rest : Option (Query Value)}
    (hfs : ∀ f ∈ fs, f.TreatsAlike host c I N) (hrest : ∀ f ∈ rest, f.TreatsAlike host c I N) :
    Parallel c (Session.Both (Session.Holding I cells) (Session.Holding I cells')) Eq
      (((tuple fs rest).dialogue x).run (Ask.answer host))
      (((tuple fs rest).dialogue y).run (Ask.answer host)) := by
  obtain ⟨hid, hid'⟩ := Value.Kindred.forall_identified hE hitems
  have hlength := hitems.length_eq
  refine look_array_parallel hI hx hy ?_
  rw [run_look, run_look]
  refine (size_parallel (hI.holding cells) (hI.holding cells') hx hy hlength).bind fun n n' hn => ?_
  obtain ⟨rfl, rfl, -⟩ := hn
  rw [← hlength]
  split
  · exact .pure rfl
  · refine look_cursor_parallel hI hx hy ?_
    rw [run_bind, run_bind]
    refine (headDialogue_parallel hlength (fun f hf => hitems.imp fun v w hvw =>
      hfs f hf cells cells' E hE v w hvw) (hx.iterates (c := c) hid).1
      (hy.iterates (c := c) hid').1).bind fun b b' hb => ?_
    subst hb
    cases b with
    | true => exact restDialogue_parallel hI hE hx hy hitems hrest _
    | false => exact .pure rfl

/-- Callables about arguments, and what remains. -/
theorem positionsDialogue_parallel {fs : List (Query Value)} {rest : Option (Query Value)}
    (hfs : ∀ f ∈ fs, f.TreatsAlike host c I N) (hrest : ∀ f ∈ rest, f.TreatsAlike host c I N) :
    Parallel c (Session.Both (Session.Holding I cells) (Session.Holding I cells')) Eq
      ((positionsDialogue fs rest x).run (Ask.answer host))
      ((positionsDialogue fs rest y).run (Ask.answer host)) := by
  obtain ⟨hid, hid'⟩ := Value.Kindred.forall_identified hE hitems
  have hlength := hitems.length_eq
  rw [positionsDialogue, positionsDialogue, run_look, run_look]
  refine (size_parallel (hI.holding cells) (hI.holding cells') hx hy hlength).bind fun n n' hn => ?_
  obtain ⟨rfl, rfl, hmax⟩ := hn
  rw [run_bind, run_bind]
  have hitem (i : Nat) (v : Value) (hi : xs[i]? = some v) : ∀ s, Session.Holding I cells s →
      Settles c (Session.Holding I cells) s (Look.item x i).read fun w _ => w = v := fun s hs =>
    hx.settles_item (hI.holding cells) hs hi
      (Nat.lt_trans (List.getElem?_eq_some_iff.mp hi).1 hmax) (hid v (List.mem_of_getElem? hi))
  have hitem' (i : Nat) (v : Value) (hi : ys[i]? = some v) : ∀ s, Session.Holding I cells' s →
      Settles c (Session.Holding I cells') s (Look.item y i).read fun w _ => w = v := fun s hs =>
    hy.settles_item (hI.holding cells') hs hi
      (Nat.lt_trans (List.getElem?_eq_some_iff.mp hi).1 (hlength ▸ hmax))
      (hid' v (List.mem_of_getElem? hi))
  refine (argumentsDialogue_parallel hlength.symm hitem hitem'
    (fun f hf => (hfs f hf).undefined hI cells cells') (fun f hf i v w hv hw => ?_) 0).bind
    fun b b' hb => ?_
  · obtain ⟨hi, rfl⟩ := List.getElem?_eq_some_iff.mp hv
    obtain ⟨hi', rfl⟩ := List.getElem?_eq_some_iff.mp hw
    exact hfs f hf cells cells' E hE _ _ (hitems.get hi hi')
  · subst hb
    cases b with
    | true => exact restDialogue_parallel hI hE hx hy hitems hrest _
    | false => exact .pure rfl

theorem parameters_parallel {fs : List (Query Value)} {required : Nat} {rest : Option (Query Value)}
    (hfs : ∀ f ∈ fs, f.TreatsAlike host c I N) (hrest : ∀ f ∈ rest, f.TreatsAlike host c I N) :
    Parallel c (Session.Both (Session.Holding I cells) (Session.Holding I cells')) Eq
      (((parameters fs required rest).dialogue x).run (Ask.answer host))
      (((parameters fs required rest).dialogue y).run (Ask.answer host)) := by
  have hlength := hitems.length_eq
  have hsize := size_parallel (c := c) (hI.holding cells) (hI.holding cells') hx hy hlength
  have hpositions := positionsDialogue_parallel hI hE hx hy hitems hfs hrest
  refine look_array_parallel hI hx hy ?_
  rw [run_look, run_look]
  refine hsize.bind fun n n' hn => ?_
  obtain ⟨rfl, rfl, -⟩ := hn
  rw [← hlength]
  split
  · exact .pure rfl
  cases rest with
  | some f => exact hpositions
  | none =>
    simp only [Option.isNone_none, if_true, run_look]
    refine hsize.bind fun n n' hn => ?_
    obtain ⟨rfl, rfl, -⟩ := hn
    rw [← hlength]
    split
    · exact .pure rfl
    · exact hpositions

end Arrays

/-! ### Mappings -/

section Mappings

variable {es es' : List Entry} (hx : x.IsMappingOf (Session.Holding I cells) es)
  (hy : y.IsMappingOf (Session.Holding I cells') es')
  (hentries : List.Forall₂ (fun e e' => e.1 = e'.1 ∧ E e.2 e'.2) es es')
include hx hy hentries

omit hE hentries in
/-- A dialogue about two mappings goes on after it has been found out that they are mappings. -/
theorem look_mapping_parallel {d d' : Dialogue (Query Value) Bool}
    (hd : Parallel c (Session.Both (Session.Holding I cells) (Session.Holding I cells')) Eq
      (d.run (Ask.answer host)) (d'.run (Ask.answer host))) :
    Parallel c (Session.Both (Session.Holding I cells) (Session.Holding I cells')) Eq
      ((look (.mapping x) fun (b : Bool) => if b then d else done false).run (Ask.answer host))
      ((look (.mapping y) fun (b : Bool) => if b then d' else done false).run (Ask.answer host)) := by
  rw [run_look, run_look]
  exact whether_parallel (fun s hs => hx.exec_isMapping (hI.holding cells) c hs)
    (fun s hs => hy.exec_isMapping (hI.holding cells') c hs) fun _ => hd

/-- A callable about all values. -/
theorem record_parallel {f : Query Value} (hf : f.TreatsAlike host c I N) :
    Parallel c (Session.Both (Session.Holding I cells) (Session.Holding I cells')) Eq
      (((record f).dialogue x).run (Ask.answer host))
      (((record f).dialogue y).run (Ask.answer host)) := by
  have hvalues : List.Forall₂ E (es.map (·.2)) (es'.map (·.2)) :=
    List.forall₂_map_left_iff.mpr (List.forall₂_map_right_iff.mpr (hentries.imp fun _ _ h => h.2))
  obtain ⟨hid, hid'⟩ := Value.Kindred.forall_identified hE hvalues
  refine look_mapping_parallel hI hx hy ?_
  have hread : ∀ s, Session.Holding I cells s → Settles c (Session.Holding I cells) s
      (readParts .values x) fun ws _ => ws = es.map (·.2) := fun s hs =>
    hx.settles_values (hI.holding cells) hs hid
  have hread' : ∀ s, Session.Holding I cells' s → Settles c (Session.Holding I cells') s
      (readParts .values y) fun ws _ => ws = es'.map (·.2) := fun s hs =>
    hy.settles_values (hI.holding cells') hs hid'
  rw [run_glance, run_glance]
  refine (Parallel.of_settles hread hread').guarded.bind fun vs vs' hvs => ?_
  cases hvs with
  | none => exact .pure rfl
  | some hvs =>
    obtain ⟨rfl, rfl⟩ := hvs
    exact valuesDialogue_parallel (hvalues.imp fun v w hvw => hf cells cells' E hE v w hvw)

variable (hkeys : KeysAnswer c I N (es.map (·.1)))
  (hhash : ∀ name, N name → Repeatable c I (hash (.ofName name)))
include hkeys hhash

/-- Callables about the values under names. -/
theorem fields_parallel {fields : List (Name × Query Value)} (hnames : ∀ field ∈ fields, N field.1)
    (hfields : ∀ field ∈ fields, field.2.TreatsAlike host c I N) :
    Parallel c (Session.Both (Session.Holding I cells) (Session.Holding I cells')) Eq
      ((fieldsDialogue x fields).run (Ask.answer host))
      ((fieldsDialogue y fields).run (Ask.answer host)) := by
  refine fieldsDialogue_parallel fun field hfield => ?_
  have hname := hnames field hfield
  refine ⟨_, get_parallel hI hx hy hentries hkeys hname (hhash _ hname), ?_⟩
  rintro v w (hvw | ⟨rfl, rfl⟩)
  · exact hfields field hfield cells cells' E hE v w hvw
  · exact (hfields field hfield).undefined hI cells cells'

/-- Callables about the values under names, and keys that are allowed. -/
theorem object_parallel {fields : List (Name × Query Value)} {allowed : Option (List (Key Value))}
    (hshape : (object fields allowed).LooksAtShape I N)
    (hfields : ∀ field ∈ fields, field.2.TreatsAlike host c I N) :
    Parallel c (Session.Both (Session.Holding I cells) (Session.Holding I cells')) Eq
      (((object fields allowed).dialogue x).run (Ask.answer host))
      (((object fields allowed).dialogue y).run (Ask.answer host)) := by
  obtain ⟨hnames, hallowed⟩ := hshape
  have hfields := fields_parallel hI hE hx hy hentries hkeys hhash hnames hfields
  refine look_mapping_parallel hI hx hy ?_
  cases allowed with
  | none => exact hfields
  | some allowed =>
    obtain ⟨names, rfl, hknown⟩ := hallowed allowed rfl
    have hsame : es'.map (·.1) = es.map (·.1) := map_keys_eq hentries id
    have hid : ∀ key ∈ es.map (·.1), key.value.isIdentified = true := hkeys.identified
    have hread : ∀ s, Session.Holding I cells s → Settles c (Session.Holding I cells) s
        (readParts .keys x) fun ws _ => ws = es.map (·.1.value) := fun s hs =>
      hx.settles_keys (hI.holding cells) hs hid
    have hread' : ∀ s, Session.Holding I cells' s → Settles c (Session.Holding I cells') s
        (readParts .keys y) fun ws _ => ws = es'.map (·.1.value) := fun s hs =>
      hy.settles_keys (hI.holding cells') hs (hsame ▸ hid)
    rw [map_keys_eq hentries Key.value] at hread'
    dsimp only
    rw [run_bind, run_bind]
    refine (keysDialogue_parallel hread hread' ?_).bind fun b b' hb => ?_
    · refine Blind.allM fun v hv => ?_
      obtain ⟨e, he, rfl⟩ := List.mem_map.mp hv
      exact hkeys.looksUp e.1 (List.mem_map_of_mem he) names hknown cells cells'
    · subst hb
      cases b with
      | true => exact hfields
      | false => exact .pure rfl

end Mappings

end Check

/-! ## Composed predicates -/

section Composed

variable {host : Host} {n : Nat} {I : Session → Prop} {N : Name → Prop}

/-- A check that asks callables which treat values alike has the same verdict about two values of the
same shape. -/
theorem Check.parallel (hI : Session.Spacious I)
    (hhash : ∀ name, N name → Repeatable (Ask.conduct host (n + 1)) I (hash (.ofName name)))
    {check : Check (Query Value) Value} (hcheck : check.LooksAtShape I N)
    (hfs : ∀ f ∈ check.callables, f.TreatsAlike host (Ask.conduct host (n + 1)) I N)
    {cells cells' : List (Nat × Cell)} {E : Value → Value → Prop} {x y : Value}
    (hE : ∀ x y, E x y → x.Kindred host (Ask.conduct host (n + 1)) I N (Session.Holding I cells)
      (Session.Holding I cells') E y) (hxy : E x y)
    (h : x.Resembles (Ask.conduct host (n + 1)) I N (Session.Holding I cells)
      (Session.Holding I cells') E y) :
    Parallel (Ask.conduct host (n + 1))
      (Session.Both (Session.Holding I cells) (Session.Holding I cells')) Eq
      ((check.dialogue x).run (Ask.answer host)) ((check.dialogue y).run (Ask.answer host)) := by
  have hagrees : ∀ f ∈ check.callables, Check.Agrees (Ask.answer host)
      (Ask.conduct host (n + 1)) _ f x y := fun f hf => hfs f hf cells cells' E hE x y hxy
  have hI₁ := hI.holding cells
  have hI₂ := hI.holding cells'
  have h₁ : ∀ s, Session.Holding I cells s → I s := fun _ hs => hs.1
  have h₂ : ∀ s, Session.Holding I cells' s → I s := fun _ hs => hs.1
  have harray := h.isArray hI₁ hI₂ h₁ h₂
  have hmapping := h.isMapping hI₁ hI₂ h₁ h₂
  cases check with
  | array f =>
    obtain ⟨hx, hy⟩ | ⟨xs, ys, hx, hy, hitems⟩ := harray
    · exact whether_parallel hx hy nofun
    · exact array_parallel hI hE hx hy hitems (hfs f List.mem_cons_self)
  | tuple fs rest =>
    obtain ⟨hx, hy⟩ | ⟨xs, ys, hx, hy, hitems⟩ := harray
    · exact whether_parallel hx hy nofun
    · exact tuple_parallel hI hE hx hy hitems
        (fun f hf => hfs f (List.mem_append_left _ hf))
        fun f hf => hfs f (List.mem_append_right _ (Option.mem_toList.mpr hf))
  | parameters fs required rest =>
    obtain ⟨hx, hy⟩ | ⟨xs, ys, hx, hy, hitems⟩ := harray
    · exact whether_parallel hx hy nofun
    · exact parameters_parallel hI hE hx hy hitems
        (fun f hf => hfs f (List.mem_append_left _ hf))
        fun f hf => hfs f (List.mem_append_right _ (Option.mem_toList.mpr hf))
  | record f =>
    obtain ⟨hx, hy⟩ | ⟨es, es', hx, hy, hentries, -⟩ := hmapping
    · exact whether_parallel hx hy nofun
    · exact record_parallel hI hE hx hy hentries (hfs f List.mem_cons_self)
  | object fields allowed =>
    obtain ⟨hx, hy⟩ | ⟨es, es', hx, hy, hentries, hkeys⟩ := hmapping
    · exact whether_parallel hx hy nofun
    · exact object_parallel hI hE hx hy hentries hkeys hhash hcheck
        fun field hfield => hfs field.2 (List.mem_map_of_mem hfield)
  | oneOf fs => exact anyDialogue_parallel hagrees
  | allOf fs => exact allDialogue_parallel hagrees
  | literal l =>
    rw [dialogue, dialogue, Dialogue.run_looking, Dialogue.run_looking]
    exact (h.matchLiteral hI₁ hI₂ h₁ h₂ hcheck).truth
  | literals ls =>
    exact literalsDialogue_parallel fun l hl =>
      (h.matchLiteral hI₁ hI₂ h₁ h₂ (hcheck l hl)).yielded.truth
  | instanceOf cls => exact hcheck.elim
  | optional f =>
    rw [dialogue, dialogue, ← h.identical_undefined]
    split
    · exact .pure rfl
    · rw [Dialogue.run_asking, Dialogue.run_asking]
      exact hagrees f List.mem_cons_self

/-- The answers of a composed predicate are told. -/
theorem Value.Composed.isTold (host : Host) {f : Value} (hf : f.Composed I N) :
    (Ask.asked host f).IsTold := by
  cases hf with
  | leaf l => exact Asked.isTold_of_bool fun x => (map_eq_pure_bind _ _).symm
  | predicate | rule => exact Ask.isTold_of_not_isLeaf host rfl

/-- The queries of a check look at what the check looks at. -/
theorem Check.LooksAtShape.queries {check : Rule} (h : check.LooksAtShape I N) :
    check.queries.LooksAtShape I N := by
  cases check with
  | object fields allowed => exact ⟨List.forall_mem_map.mpr h.1, h.2⟩
  | _ => exact h

/-- **A composed predicate treats kindred values alike.** -/
theorem Value.Composed.treatsAlike (hI : Session.Spacious I)
    (hhash : ∀ name, N name → Repeatable (Ask.conduct host (n + 1)) I (hash (.ofName name)))
    {f : Value} (hf : f.Composed I N) : f.TreatsAlike host (Ask.conduct host (n + 1)) I N := by
  induction hf with
  | leaf l =>
    intro cells cells' E hE x y hxy
    cases hE x y hxy with
    | resembling h =>
      exact h.agrees_leaf (hI.holding cells) (hI.holding cells') (fun _ hs => hs.1)
        (fun _ hs => hs.1) host l
    | other _ hv => exact .of_blind (hv _ (.leaf l) cells cells')
  | predicate id name facets _ ih => exact .predicate id name facets ih
  | @rule id check hcheck hparts ih =>
    intro cells cells' E hE x y hxy
    rw [Check.Agrees]
    cases hE x y hxy with
    | resembling h =>
      have hanswer (v : Value) : Ask.answer host ⟨.plain, .rule id check⟩ v = _ :=
        Ask.accepts_rule host id check v
      rw [hanswer, hanswer]
      refine Check.parallel hI hhash hcheck.queries (fun q hq => ?_) hE hxy h
      have hmem := Check.callable_mem_of_mem_queries hq
      exact (ih _ hmem).query ((hparts _ hmem).isTold host) q.manner
    | other _ hv => exact .of_blind (hv _ (.rule id hcheck hparts) cells cells')

end Composed

end ValueShape
