import ValueShape.Proofs.Store.Register

/-!
# Computations that settle

What it means that a computation gives a result and leaves a session in which everything can go on.

* An *invariant* of sessions is `Steadfast` if the classes of the library are intact where it holds,
  and if the notes that the library takes of its own predicates do not end it.  It is `Lasting` if no
  notes at all do, as when somebody else registers predicates in the meantime.
* `Run.Settles c I s m P` says that the computation `m` gives a result with the property `P`, from
  the session `s` on, and that it leaves a later session in which `I` holds.
* `Run.Settles.bind` is the rule for what goes on with the result.
* `Run.Refused c s factory m` says that the computation `m` fails because the factory refuses an
  argument.  What comes first may settle (`Run.Settles.refused`).
-/

set_option autoImplicit false

namespace ValueShape

/-- An invariant of sessions in which the library can work. -/
structure Session.Lasting (I : Session → Prop) : Prop where
  /-- The classes of the library are intact. -/
  sound {s : Session} (hs : I s) : s.Sound
  /-- Notes do not end it. -/
  notes {s s' : Session} (hs : I s) (hnotes : s.Notes s') : I s'

theorem Session.lasting_sound : Session.Lasting Session.Sound where
  sound hs := hs
  notes hs hnotes := hnotes.sound hs

/-- An invariant of sessions in which the library can work, as long as nobody else registers
anything. -/
structure Session.Steadfast (I : Session → Prop) : Prop where
  /-- The classes of the library are intact. -/
  sound {s : Session} (hs : I s) : s.Sound
  /-- Notes of new predicates do not end it. -/
  adds {s s' : Session} (hs : I s) (hadds : s.Adds s') : I s'

theorem Session.Lasting.steadfast {I : Session → Prop} (hI : Session.Lasting I) :
    Session.Steadfast I where
  sound hs := hI.sound hs
  adds hs hadds := hI.notes hs hadds.toNotes

instance {I : Session → Prop} : Coe (Session.Lasting I) (Session.Steadfast I) :=
  ⟨Session.Lasting.steadfast⟩

namespace Run

variable {α β : Type}

/-- A computation gives a result with a property, and leaves a later session in which the invariant
holds. -/
def Settles (c : Conduct) (I : Session → Prop) (s : Session) (m : Run α)
    (P : α → Session → Prop) : Prop :=
  ∃ a s', exec c m s = .ok a s' ∧ s.LeadsTo s' ∧ I s' ∧ P a s'

namespace Settles

variable {c : Conduct} {I : Session → Prop} {s s' : Session} {m : Run α} {P Q : α → Session → Prop}

theorem of_exec (hI : Session.Steadfast I) (hs : I s) {a : α} (hm : exec c m s = .ok a s')
    (hadds : s.Adds s') (hP : P a s') : Settles c I s m P :=
  ⟨a, s', hm, hadds.leadsTo, hI.adds hs hadds, hP⟩

theorem of_notes (hI : Session.Lasting I) (hs : I s) {a : α} (hm : exec c m s = .ok a s')
    (hnotes : s.Notes s') (hP : P a s') : Settles c I s m P :=
  ⟨a, s', hm, hnotes.leadsTo, hI.notes hs hnotes, hP⟩

/-- A computation that changes nothing settles at once. -/
theorem of_exec_self (hs : I s) {a : α} (hm : exec c m s = .ok a s) (hP : P a s) :
    Settles c I s m P :=
  ⟨a, s, hm, .refl s, hs, hP⟩

theorem mono (hm : Settles c I s m P)
    (hPQ : ∀ a s', s.LeadsTo s' → I s' → P a s' → Q a s') : Settles c I s m Q := by
  obtain ⟨a, s', ha, hle, hs', hP⟩ := hm
  exact ⟨a, s', ha, hle, hs', hPQ a s' hle hs' hP⟩

theorem bind {k : α → Run β} {R : β → Session → Prop} (hm : Settles c I s m P)
    (hk : ∀ a s', s.LeadsTo s' → I s' → P a s' → Settles c I s' (k a) R) :
    Settles c I s (m >>= k) R := by
  obtain ⟨a, s', ha, hle, hs', hP⟩ := hm
  obtain ⟨b, s'', hb, hle', hs'', hR⟩ := hk a s' hle hs' hP
  refine ⟨b, s'', ?_, hle.trans hle', hs'', hR⟩
  rw [exec_bind, ha, Ending.andThen_ok, hb]

/-- A generator lets results out as they are. -/
theorem yielded (hm : Settles c I s m P) : Settles c I s (Run.yielded m) P := by
  obtain ⟨a, s', ha, hrest⟩ := hm
  exact ⟨a, s', by rw [exec_yielded, ha, Ending.yielded_ok], hrest⟩

/-- What was done before a computation does not matter to its ending. -/
theorem after {k : α → Run β} {R : β → Session → Prop} {a : α} (hm : exec c m s = .ok a s)
    (hk : Settles c I s (k a) R) : Settles c I s (m >>= k) R := by
  obtain ⟨b, s', hb, hrest⟩ := hk
  refine ⟨b, s', ?_, hrest⟩
  rw [exec_bind, hm, Ending.andThen_ok, hb]

end Settles

/-- A computation fails because a factory refuses an argument. -/
def Refused (c : Conduct) (s : Session) (factory : String) (m : Run α) : Prop :=
  ∃ detail s', exec c m s = .error (.refusal factory detail) s'

namespace Refused

variable {c : Conduct} {s : Session} {factory : String} {m : Run α}

theorem bind (hm : Refused c s factory m) (k : α → Run β) : Refused c s factory (m >>= k) := by
  obtain ⟨detail, s', hm⟩ := hm
  exact ⟨detail, s', by rw [exec_bind, hm, Ending.andThen_error]⟩

/-- What was done before does not matter to a refusal. -/
theorem after {s' : Session} {k : α → Run β} {a : α} (hm : exec c m s = .ok a s')
    (hk : Refused c s' factory (k a)) : Refused c s factory (m >>= k) := by
  obtain ⟨detail, s'', hk⟩ := hk
  exact ⟨detail, s'', by rw [exec_bind, hm, Ending.andThen_ok, hk]⟩

end Refused

theorem Settles.refused {c : Conduct} {I : Session → Prop} {s : Session} {m : Run α}
    {P : α → Session → Prop} {factory : String} {k : α → Run β} (hm : Settles c I s m P)
    (hk : ∀ a s', s.LeadsTo s' → I s' → P a s' → Refused c s' factory (k a)) :
    Refused c s factory (m >>= k) := by
  obtain ⟨a, s', ha, hle, hs', hP⟩ := hm
  exact .after ha (hk a s' hle hs' hP)

end Run

end ValueShape
