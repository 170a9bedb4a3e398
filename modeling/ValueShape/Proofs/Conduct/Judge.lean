import ValueShape.Proofs.Conduct.Traverse
import ValueShape.Conduct.Hash
import ValueShape.Conduct.Order

/-!
# Comparing and writing values keeps to a course

Whether values are equal, what they are found by, which of them comes first, and how they are
written: all of this keeps to a course that the conduct keeps to.
-/

set_option autoImplicit false

namespace ValueShape

namespace Run.Keeps

variable {R : Session → Session → Prop} {c : Conduct} {α β : Type} (hc : c.Keeps R)
include hc

/-! ## Equality

The lemmas stand in the order of the definitions.  Each of them needs the ones before it, and what
the course says about calls. -/

@[grind ←] theorem bothKnow (a b : Option α) {answer : α → α → Run Bool}
    (hanswer : ∀ a b, Keeps R c (answer a b)) : Keeps R c (bothKnow a b answer) := by
  unfold Run.bothKnow
  grind

theorem equalParts (vs ws : List Value) : Keeps R c (equalParts vs ws) := by
  fun_induction Run.equalParts vs ws <;> grind

theorem equalCursors (fuel : Nat) (cursor cursor' : Cursor) :
    Keeps R c (equalCursors fuel cursor cursor') := by
  induction fuel generalizing cursor cursor' with
  | zero => exact throw hc _
  | succ fuel ih =>
    unfold Run.equalCursors
    grind

theorem entriesWithin (others es : List Entry) : Keeps R c (entriesWithin others es) := by
  fun_induction Run.entriesWithin others es <;> grind

theorem equalEntries (es fs : List Entry) : Keeps R c (equalEntries es fs) := by
  have hentriesWithin := entriesWithin hc
  unfold Run.equalEntries
  grind

theorem membersWithin (others members : List (Key Value)) :
    Keeps R c (membersWithin others members) := by
  fun_induction Run.membersWithin others members <;> grind

theorem equalMembers (vs ws : List (Key Value)) : Keeps R c (equalMembers vs ws) := by
  have hmembersWithin := membersWithin hc
  unfold Run.equalMembers
  grind

@[grind ←] theorem equalCollections (v w : Value) {start : Run Cursor} (hstart : Keeps R c start) :
    Keeps R c (equalCollections v w start) := by
  unfold Run.equalCollections
  grind

theorem isSubset (v w : Value) : Keeps R c (isSubset v w) := by
  unfold Run.isSubset
  grind

theorem equalSets (v w : Value) : Keeps R c (equalSets v w) := by
  have hisSubset := isSubset hc
  unfold Run.equalSets
  grind

theorem readFields (v : Value) : Keeps R c (readFields v) := by
  unfold Run.readFields
  grind

theorem equalRecords (v w : Value) : Keeps R c (equalRecords v w) := by
  have hreadFields := readFields hc
  have hequalParts := equalParts hc
  unfold Run.equalRecords
  grind

theorem equalGenerics (v w : Value) : Keeps R c (equalGenerics v w) := by
  have hequalParts := equalParts hc
  unfold Run.equalGenerics
  grind

theorem nativeAnswer (k : Kind) (v w : Value) : Keeps R c (nativeAnswer k v w) := by
  have hequalParts := equalParts hc
  have hequalCursors := equalCursors hc
  have hequalEntries := equalEntries hc
  have hequalMembers := equalMembers hc
  have hequalRecords := equalRecords hc
  have hequalGenerics := equalGenerics hc
  have hequalSets := equalSets hc
  unfold Run.nativeAnswer
  grind

theorem answer (v w : Value) : Keeps R c (answer v w) := by
  have hnativeAnswer := nativeAnswer hc
  unfold Run.answer
  grind

theorem compareOnce (v w : Value) : Keeps R c (compareOnce v w) := by
  have hanswer := answer hc
  unfold Run.compareOnce
  grind

@[grind ←] theorem contrary {answer : Run (Option Value)} (hanswer : Keeps R c answer) :
    Keeps R c (contrary answer) := by
  unfold Run.contrary
  grind

theorem contraryAnswer (v w : Value) : Keeps R c (contraryAnswer v w) := by
  have hnativeAnswer := nativeAnswer hc
  have hanswer := answer hc
  unfold Run.contraryAnswer
  grind

theorem differ (v w : Value) : Keeps R c (differ v w) := by
  have hcontraryAnswer := contraryAnswer hc
  unfold Run.differ
  grind

/-! ## Hashes -/

theorem hashGivenBy (result : Value) : Keeps R c (hashGivenBy result) := by
  unfold Run.hashGivenBy
  grind

theorem nativeHash (k : Kind) (v : Value) : Keeps R c (nativeHash k v) := by
  have hreadFields := readFields hc
  unfold Run.nativeHash
  grind

theorem hashOnce (v : Value) : Keeps R c (hashOnce v) := by
  have hhashGivenBy := hashGivenBy hc
  have hnativeHash := nativeHash hc
  unfold Run.hashOnce
  grind

/-! ## Order -/

theorem orderedParts (m : Method) (vs ws : List Value) : Keeps R c (orderedParts m vs ws) := by
  fun_induction Run.orderedParts m vs ws <;> grind

theorem orderedIfBoth (m : Method) (vs ws : Option (List Value)) :
    Keeps R c (orderedIfBoth m vs ws) := by
  have horderedParts := orderedParts hc
  unfold Run.orderedIfBoth
  grind

theorem orderedCursors (m : Method) (fuel : Nat) (cursor cursor' : Cursor) :
    Keeps R c (orderedCursors m fuel cursor cursor') := by
  induction fuel generalizing cursor cursor' with
  | zero => exact throw hc _
  | succ fuel ih =>
    unfold Run.orderedCursors
    grind

@[grind ←] theorem orderedSets (m : Method) (sizes : Nat × Nat) {within : α → α → Run Bool}
    (hwithin : ∀ v w, Keeps R c (within v w)) (v w : α) : Keeps R c (orderedSets m sizes within v w) := by
  unfold Run.orderedSets
  grind

theorem occursWithin (v w : Value) : Keeps R c (occursWithin v w) := by
  unfold Run.occursWithin
  grind

theorem orderedCollections (m : Method) (v w : Value) :
    Keeps R c (orderedCollections m v w) := by
  have hisSubset := isSubset hc
  have hoccursWithin := occursWithin hc
  unfold Run.orderedCollections
  grind

theorem nativeOrder (m : Method) (k : Kind) (v w : Value) :
    Keeps R c (nativeOrder m k v w) := by
  have horderedIfBoth := orderedIfBoth hc
  have horderedCursors := orderedCursors hc
  have hoccursWithin := occursWithin hc
  have horderedCollections := orderedCollections hc
  have hwithin (vs ws : List (Key Value)) : Keeps R c (Run.membersWithin ws vs) :=
    membersWithin hc ws vs
  unfold Run.nativeOrder
  refine bind hc (heap hc) fun h => ?_
  split <;> grind

theorem orderAnswer (m : Method) (v w : Value) : Keeps R c (orderAnswer m v w) := by
  have hnativeOrder := nativeOrder hc
  unfold Run.orderAnswer
  grind

theorem orderOnce (m : Method) (v w : Value) : Keeps R c (orderOnce m v w) := by
  have horderAnswer := orderAnswer hc
  have hanswers (h : Heap) : ∀ answer ∈ (if h.asksSecondFirst v w
        then [Run.orderAnswer m v w, Run.orderAnswer m.mirrored w v].reverse
        else [Run.orderAnswer m v w, Run.orderAnswer m.mirrored w v]), Keeps R c (id answer) := by
    grind
  refine bind hc (heap hc) fun h => bind hc (findSomeM? hc _ (hanswers h)) fun result => ?_
  cases result <;> grind

theorem isLess (v w : Value) : Keeps R c (isLess v w) := by
  unfold Run.isLess
  grind

theorem runLength (falling : Bool) (before : Value) (vs : List Value) :
    Keeps R c (runLength falling before vs) := by
  have hisLess := isLess hc
  fun_induction Run.runLength falling before vs <;> grind

theorem insertionPlace (v : Value) (sorted : List Value) (fuel low high : Nat) :
    Keeps R c (insertionPlace v sorted fuel low high) := by
  have hisLess := isLess hc
  fun_induction Run.insertionPlace v sorted fuel low high <;> grind

theorem insertSorted (sorted : List Value) (v : Value) :
    Keeps R c (insertSorted sorted v) := by
  have hinsertionPlace := insertionPlace hc
  unfold Run.insertSorted
  grind

theorem sortedByAsking (vs : List Value) : Keeps R c (sortedByAsking vs) := by
  have hisLess := isLess hc
  have hrunLength := runLength hc
  have hinsertSorted := insertSorted hc
  unfold Run.sortedByAsking
  grind

theorem sorted (vs : List Value) : Keeps R c (sorted vs) := by
  have hsortedByAsking := sortedByAsking hc
  unfold Run.sorted
  grind

/-! ## Writing -/

theorem writtenChars (v : Value) : Keeps R c (writtenChars v) := by
  unfold Run.writtenChars
  grind

@[grind .] theorem requireText (method : Method) (result : Value) :
    Keeps R c (requireText method result) := by
  unfold Run.requireText
  grind

@[grind ←] theorem entering (v : Value) {write : Run (List Char)} (hwrite : Keeps R c write) :
    Keeps R c (entering v write) := by
  have hmodify (f : List Value → List Value) :
      Keeps R c (modify fun s => { s with writing := f s.writing } : Run PUnit) :=
    fun s => hc.course.aside s _ _
  have htried := tryCatch hc (map hc Except.ok hwrite) fun e =>
    pure hc (Except.error e : Except Failure (List Char))
  unfold Run.entering
  refine bind hc (get hc) fun s => ?_
  split
  · grind
  · exact bind hc (hmodify _) fun _ => bind hc htried fun result => bind hc (hmodify _) fun _ =>
      ofExcept hc result

theorem plainFormUpTo (fuel : Nat) (v : Value) : Keeps R c (plainFormUpTo fuel v) := by
  fun_induction Run.plainFormUpTo fuel v <;> grind

theorem plainForm (v : Value) : Keeps R c (plainForm v) := plainFormUpTo hc _ v

theorem formatValue (v : Value) : Keeps R c (formatValue v) := by
  have hplainForm := plainForm hc
  unfold Run.formatValue
  grind

theorem formatted (v : Value) : Keeps R c (formatted v) := by
  have hformatValue := formatValue hc
  unfold Run.formatted
  grind

theorem shown (v : Value) : Keeps R c (shown v) := by
  have hformatted := formatted hc
  unfold Run.shown
  grind

theorem shownClass (v : Value) : Keeps R c (shownClass v) := by
  have hformatted := formatted hc
  unfold Run.shownClass
  grind

theorem displayName (v : Value) : Keeps R c (displayName v) := by
  unfold Run.displayName
  grind

theorem placedName (moduleName name : Value) : Keeps R c (placedName moduleName name) := by
  have hplainForm := plainForm hc
  unfold Run.placedName
  grind

theorem looksGeneric (v : Value) : Keeps R c (looksGeneric v) := by
  unfold Run.looksGeneric
  grind

theorem writeBuiltinParameter (v : Value) : Keeps R c (writeBuiltinParameter v) := by
  have hplacedName := placedName hc
  have hwrittenChars := writtenChars hc
  unfold Run.writeBuiltinParameter
  split
  · exact pure hc _
  · exact writtenChars hc _
  · refine bind hc (looksGeneric hc _) fun isGeneric => ?_
    split
    · exact writtenChars hc _
    · refine bind hc (attribute? hc _ _) fun name => ?_
      cases name with
      | none => exact writtenChars hc _
      | some name =>
        refine bind hc (attribute? hc _ _) fun moduleName => ?_
        split <;> grind

theorem writeForwardParameter (v : Value) : Keeps R c (writeForwardParameter v) := by
  have hplacedName := placedName hc
  have hformatted := formatted hc
  have hwrittenChars := writtenChars hc
  unfold Run.writeForwardParameter
  grind

theorem writeOrigin (cls : Class) : Keeps R c (writeOrigin cls) := by
  have hwriteForwardParameter := writeForwardParameter hc
  have hwriteBuiltinParameter := writeBuiltinParameter hc
  unfold Run.writeOrigin
  grind

theorem writeParameters (origin : Class) (v : Value) :
    Keeps R c (writeParameters origin v) := by
  have hwriteForwardParameter := writeForwardParameter hc
  have hwriteBuiltinParameter := writeBuiltinParameter hc
  unfold Run.writeParameters
  grind

theorem writeEntry (e : Entry) : Keeps R c (writeEntry e) := by
  have hwrittenChars := writtenChars hc
  unfold Run.writeEntry
  grind

theorem writePair (e : Entry) : Keeps R c (writePair e) := by
  have hwrittenChars := writtenChars hc
  unfold Run.writePair
  grind

theorem writeSet (plain : Kind) (v : Value) : Keeps R c (writeSet plain v) := by
  have hwrittenChars := writtenChars hc
  unfold Run.writeSet
  grind

theorem writeOrdered (v : Value) (es : List Entry) : Keeps R c (writeOrdered v es) := by
  have hwritePair := writePair hc
  have hwrittenChars := writtenChars hc
  unfold Run.writeOrdered
  grind

theorem writeRecord (v : Value) : Keeps R c (writeRecord v) := by
  have hshown := shown hc
  unfold Run.writeRecord
  grind

theorem writePredicate (v : Value) : Keeps R c (writePredicate v) := by
  have hformatted := formatted hc
  unfold Run.writePredicate
  grind

theorem writeField (owner : Kind) (name : String) : Keeps R c (writeField owner name) := by
  unfold Run.writeField
  grind

theorem writeBound (owner : Kind) (name : String) (self : Value) :
    Keeps R c (writeBound owner name self) := by
  have hwrittenChars := writtenChars hc
  unfold Run.writeBound
  grind

theorem writeContents (v : Value) : Keeps R c (writeContents v) := by
  have hwriteOrdered := writeOrdered hc
  have hwriteEntry := writeEntry hc
  have hwriteSet := writeSet hc
  have hwrittenChars := writtenChars hc
  have hitems (v : Value) : Keeps R c (Run.each (fun _ item => Run.writtenChars item) (.elements v 0)) :=
    each hc (fun _ item => hwrittenChars item) _
  unfold Run.writeContents
  refine bind hc (heap hc) fun h => ?_
  split <;> grind

theorem writeFailure (v : Value) : Keeps R c (writeFailure v) := by
  have hwrittenChars := writtenChars hc
  unfold Run.writeFailure
  grind

theorem nativeForm (v : Value) : Keeps R c (nativeForm v) := by
  have hwrittenChars := writtenChars hc
  have hwriteSet := writeSet hc
  have hwritePredicate := writePredicate hc
  have hwriteRecord := writeRecord hc
  have hwriteOrigin := writeOrigin hc
  have hwriteParameters := writeParameters hc
  have hwriteBound := writeBound hc
  have hwriteField := writeField hc
  have hwriteFailure := writeFailure hc
  have hwriteContents := writeContents hc
  unfold Run.nativeForm
  grind

theorem writeOnce (v : Value) : Keeps R c (writeOnce v) := by
  have hrequireText := requireText hc
  have hnativeForm := nativeForm hc
  unfold Run.writeOnce
  grind

-- What the functions beyond this module judge and write values with.
attribute [grind .] compareOnce differ displayName formatted hashOnce orderOnce plainForm shown
  shownClass sorted writeOnce

end Run.Keeps

end ValueShape
