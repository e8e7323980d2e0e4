import CiClient.Proofs.JobReading
import CiClient.Proofs.DocumentValues
/-!
# Job documents read and written back

A text whose objects each hold a key once decodes as a job, build reference or job summary
exactly where the JSON value it reads as has the document's shape; the document is written as
that value with the document's edit applied; and the written text decodes to the same document
again, provided each float in it reads back from its shortest text as itself (`Faithful`,
`job_documents_faithful`).

The reading of such a text goes through its tree: the tree decoders of `JobReading` give, on a
tree whose objects have distinct keys, what the value decoders of `DocumentValues` give on the
tree's value (`Reads`, `reads_job`). The written text is the compact text of a canonical value,
which reads as that value's tree (`decodeWith_tree_compact`), a tree whose keys are sorted, so
distinct. `Document` gathers what each of the three documents contributes, and
`Document.faithful` makes the argument once for all three.

The float condition cannot be dropped: the decoder's fast float reading does not always give
back a float from its shortest text (`reread_moves_float`).
-/

namespace CiClient.Json

namespace Tree

mutual
/-- Every object of the tree holds each key once. -/
def KeysDistinct : Tree → Prop
  | .array ts => ItemsDistinct ts
  | .object fs => (fs.map Prod.fst).Nodup ∧ FieldsDistinct fs
  | _ => True

def ItemsDistinct : List Tree → Prop
  | [] => True
  | t :: ts => t.KeysDistinct ∧ ItemsDistinct ts

def FieldsDistinct : List (String × Tree) → Prop
  | [] => True
  | (_, t) :: fs => t.KeysDistinct ∧ FieldsDistinct fs
end

/-- Whether no key of the list occurs twice. -/
def keysFresh : List String → Bool
  | [] => true
  | k :: ks => !ks.contains k && keysFresh ks

theorem keysFresh_iff : ∀ ks : List String, keysFresh ks = true ↔ ks.Nodup
  | [] => by simp [keysFresh]
  | k :: ks => by simp [keysFresh, keysFresh_iff ks]

mutual
/-- `KeysDistinct` as a check that runs. -/
def keysDistinctCheck : Tree → Bool
  | .array ts => itemsDistinctCheck ts
  | .object fs => keysFresh (fs.map Prod.fst) && fieldsDistinctCheck fs
  | _ => true

def itemsDistinctCheck : List Tree → Bool
  | [] => true
  | t :: ts => keysDistinctCheck t && itemsDistinctCheck ts

def fieldsDistinctCheck : List (String × Tree) → Bool
  | [] => true
  | (_, t) :: fs => keysDistinctCheck t && fieldsDistinctCheck fs
end

mutual
theorem keysDistinctCheck_iff : ∀ t : Tree, keysDistinctCheck t = true ↔ t.KeysDistinct
  | .null | .bool _ | .number _ | .string _ => by simp [keysDistinctCheck, KeysDistinct]
  | .array ts => itemsDistinctCheck_iff ts
  | .object fs => by
    rw [keysDistinctCheck, Bool.and_eq_true, keysFresh_iff, fieldsDistinctCheck_iff fs]
    rfl

theorem itemsDistinctCheck_iff :
    ∀ ts : List Tree, itemsDistinctCheck ts = true ↔ ItemsDistinct ts
  | [] => by simp [itemsDistinctCheck, ItemsDistinct]
  | t :: ts => by
    rw [itemsDistinctCheck, Bool.and_eq_true, keysDistinctCheck_iff t, itemsDistinctCheck_iff ts]
    rfl

theorem fieldsDistinctCheck_iff :
    ∀ fs : List (String × Tree), fieldsDistinctCheck fs = true ↔ FieldsDistinct fs
  | [] => by simp [fieldsDistinctCheck, FieldsDistinct]
  | (_, t) :: fs => by
    rw [fieldsDistinctCheck, Bool.and_eq_true, keysDistinctCheck_iff t, fieldsDistinctCheck_iff fs]
    rfl
end

theorem fieldsDistinct_iff :
    ∀ {fs : List (String × Tree)}, FieldsDistinct fs ↔ ∀ f ∈ fs, f.2.KeysDistinct
  | [] => by simp [FieldsDistinct]
  | (k, t) :: fs => by simp [FieldsDistinct, fieldsDistinct_iff]

end Tree

/-! ### Fields of a tree with distinct keys -/

section Lookups

open Job

variable {α : Type}

/-- The value under a key of an object read from a tree: its last field of that key, if any. -/
theorem lookupField_fieldValues (k : String) :
    ∀ (fs : List (String × Tree)) (acc : List (String × Value)),
      lookupField k (Tree.fieldValues fs acc) =
        ((valuesAt fs k).getLast?.map Tree.toValue).or (lookupField k acc)
  | [], acc => by simp [Tree.fieldValues]
  | (k', t) :: fs, acc => by
    rw [Tree.fieldValues, lookupField_fieldValues k fs, lookupField_insertField]
    by_cases hk : k = k'
    · subst hk
      rw [valuesAt_cons_self, List.getLast?_cons]
      cases (valuesAt fs k).getLast? <;> simp
    · rw [valuesAt_cons_of_ne (Ne.symm hk), if_neg hk]

/-- Among fields with distinct keys a key is given at most once. -/
theorem length_valuesAt_le {fs : List (String × Tree)} (hnd : (fs.map Prod.fst).Nodup)
    (k : String) : (valuesAt fs k).length ≤ 1 := by
  induction fs with
  | nil => simp
  | cons f fs ih =>
    obtain ⟨k', t⟩ := f
    rw [List.map_cons, List.nodup_cons] at hnd
    by_cases hk : k' = k
    · subst hk
      -- the key is not among the later fields
      have hnone : valuesAt fs k' = [] := by
        simp only [valuesAt, List.map_eq_nil_iff, List.filter_eq_nil_iff, decide_eq_true_eq]
        intro f hf hfk
        have hmem : f.1 ∈ fs.map Prod.fst := List.mem_map_of_mem hf
        rw [hfk] at hmem
        exact hnd.1 hmem
      rw [valuesAt_cons_self, hnone]
      simp
    · rw [valuesAt_cons_of_ne hk]
      exact ih hnd.2

/-- A field given exactly once, read from a key given at most once, decodes as its value. -/
theorem single_of_le_one {D : Tree → Option α} {D' : Value → Option α} {l : List Tree}
    (hl : l.length ≤ 1) (hD : ∀ t ∈ l, D t = D' t.toValue) :
    single D l = (l.getLast?.map Tree.toValue).bind D' := by
  rcases l with _ | ⟨t, _ | ⟨u, l⟩⟩
  · rfl
  · exact hD t List.mem_cons_self
  · simp at hl

/-- A field given at most once, read from a key given at most once, decodes as its value, or as
none where absent. -/
theorem optional_of_le_one {D : Tree → Option α} {D' : Value → Option α} {l : List Tree}
    (hl : l.length ≤ 1) (hD : ∀ t ∈ l, D t = D' t.toValue) :
    optional D l = (l.getLast?.map Tree.toValue).elim (some none) fun v => (D' v).map some := by
  rcases l with _ | ⟨t, _ | ⟨u, l⟩⟩
  · rfl
  · show (D t).map some = (D' t.toValue).map some
    rw [hD t List.mem_cons_self]
  · simp at hl

/-- The values under a key come from fields of that key. -/
theorem mem_of_mem_valuesAt {fs : List (String × Tree)} {k : String} {t : Tree}
    (h : t ∈ valuesAt fs k) : (k, t) ∈ fs := by
  obtain ⟨f, hf, rfl⟩ := List.mem_map.1 h
  obtain ⟨hf, hk⟩ := List.mem_filter.1 hf
  rw [← of_decide_eq_true hk]
  exact hf

theorem lookupField_fieldValues_nil (k : String) (fs : List (String × Tree)) :
    lookupField k (Tree.fieldValues fs []) = (valuesAt fs k).getLast?.map Tree.toValue := by
  rw [lookupField_fieldValues, lookupField_nil, Option.or_none]

theorem valuesAt_filter (keys : List String) (fs : List (String × Tree)) (k : String) :
    valuesAt (fs.filter fun f => f.1 ∉ keys) k = if k ∈ keys then [] else valuesAt fs k := by
  unfold valuesAt
  rw [List.filter_filter]
  split_ifs with hk
  · simp only [List.map_eq_nil_iff, List.filter_eq_nil_iff, Bool.and_eq_true, decide_eq_true_eq]
    rintro f - ⟨rfl, hf⟩
    exact hf hk
  · congr 1
    refine List.filter_congr fun f _ => ?_
    by_cases hf : f.1 = k
    · subst hf
      simp [hk]
    · simp [hf]

/-- The fields of a tree other than `keys`, read as values, are the fields of the tree's value
other than `keys`. -/
theorem fieldValues_filter (keys : List String) (fs : List (String × Tree)) :
    Tree.fieldValues (fs.filter fun f => f.1 ∉ keys) [] =
      others keys (Tree.fieldValues fs []) := by
  refine eq_of_lookupField_eq (Tree.keysSorted_fieldValues _ keysSorted_nil)
    ((Tree.keysSorted_fieldValues fs keysSorted_nil).others keys) fun k => ?_
  rw [lookupField_fieldValues_nil, lookupField_others, lookupField_fieldValues_nil,
    valuesAt_filter]
  split_ifs <;> rfl

end Lookups

/-! ### Tree decoders that decode the tree's value -/

section Reads

open Job

variable {α : Type}

/-- `D` decodes a tree whose objects hold each key once as `D'` decodes the tree's value. -/
def Reads (D : Tree → Option α) (D' : Value → Option α) : Prop :=
  ∀ t : Tree, t.KeysDistinct → D t = D' t.toValue

theorem reads_nat : Reads Tree.nat? Value.nat? := by
  intro t _
  cases t with
  | number x => cases x <;> rfl
  | _ => rfl

theorem reads_str : Reads Tree.str? Value.str? := by
  intro t _
  cases t <;> rfl

variable {D : Tree → Option α} {D' : Value → Option α}

theorem Reads.orNull (h : Reads D D') : Reads (Tree.orNull D) (Value.orNull D') := by
  intro t ht
  cases t with
  | null => rfl
  | _ => exact congrArg (Option.map some) (h _ ht)

theorem Reads.mapM (h : Reads D D') :
    ∀ {ts : List Tree}, Tree.ItemsDistinct ts → ts.mapM D = (Tree.toValues ts).mapM D'
  | [], _ => rfl
  | t :: ts, ⟨ht, hts⟩ => by
    rw [List.mapM_cons, Tree.toValues, List.mapM_cons, h t ht, h.mapM hts]

theorem Reads.listOf (h : Reads D D') : Reads (Tree.listOf D) (Value.listOf D') := by
  intro t ht
  cases t with
  | array ts => exact h.mapM ht
  | _ => rfl

section Fields

variable {fs : List (String × Tree)} (hnd : (fs.map Prod.fst).Nodup) (hfs : Tree.FieldsDistinct fs)
include hnd hfs

/-- Among fields with distinct keys, a field given exactly once decodes as the value under its
key. -/
theorem Reads.single_valuesAt (h : Reads D D') (k : String) :
    single D (valuesAt fs k) = (lookupField k (Tree.fieldValues fs [])).bind D' := by
  rw [lookupField_fieldValues_nil]
  exact single_of_le_one (length_valuesAt_le hnd k) fun t ht =>
    h t (Tree.fieldsDistinct_iff.1 hfs _ (mem_of_mem_valuesAt ht))

/-- Among fields with distinct keys, a field given at most once decodes as the value under its
key, or as none where the key is absent. -/
theorem Reads.optional_valuesAt (h : Reads D D') (k : String) :
    optional D (valuesAt fs k) =
      (lookupField k (Tree.fieldValues fs [])).elim (some none) fun v => (D' v).map some := by
  rw [lookupField_fieldValues_nil]
  exact optional_of_le_one (length_valuesAt_le hnd k) fun t ht =>
    h t (Tree.fieldsDistinct_iff.1 hfs _ (mem_of_mem_valuesAt ht))

end Fields

end Reads

/-! ### Texts and the values they read as -/

theorem map_fst_ofFields :
    ∀ fs : List (String × Value), (Tree.ofFields fs).map Prod.fst = fs.map Prod.fst
  | [] => rfl
  | (k, v) :: fs => by rw [Tree.ofFields, List.map_cons, List.map_cons, map_fst_ofFields fs]

theorem KeysSorted.nodup {fs : List (String × Value)} (h : KeysSorted fs) :
    (fs.map Prod.fst).Nodup :=
  (List.pairwise_map.2 h).imp ne_of_lt

open Value in
mutual
/-- The tree of a canonical value holds each key once in each object: its keys are sorted. -/
theorem keysDistinct_ofValue :
    ∀ {d : Nat} (v : Value), v.Canonical d → (Tree.ofValue v).KeysDistinct
  | _, .null, _ => trivial
  | _, .bool _, _ => trivial
  | _, .number _, _ => trivial
  | _, .string _, _ => trivial
  | _, .array vs, ⟨_, h⟩ => itemsDistinct_ofValues vs h
  | _, .object fs, ⟨_, hs, h⟩ =>
    ⟨(map_fst_ofFields fs).symm ▸ hs.nodup, fieldsDistinct_ofFields fs h⟩

theorem itemsDistinct_ofValues : ∀ {d : Nat} (vs : List Value), CanonicalItems d vs →
    Tree.ItemsDistinct (Tree.ofValues vs)
  | _, [], _ => trivial
  | _, v :: vs, ⟨hv, hvs⟩ => ⟨keysDistinct_ofValue v hv, itemsDistinct_ofValues vs hvs⟩

theorem fieldsDistinct_ofFields :
    ∀ {d : Nat} (fs : List (String × Value)), CanonicalFields d fs →
      Tree.FieldsDistinct (Tree.ofFields fs)
  | _, [], _ => trivial
  | _, (_, v) :: fs, ⟨hv, hfs⟩ =>
    ⟨keysDistinct_ofValue v hv, fieldsDistinct_ofFields fs hfs⟩
end

open Decode Reader Text.Utf8

/-- A whole text reads as a value exactly where it reads as a tree, the value being the tree's. -/
theorem decode_iff_tree (bytes : List UInt8) (v : Value) :
    Value.decode bytes = .ok v ↔ ∃ t, decodeWith tree bytes = .ok t ∧ t.toValue = v := by
  constructor
  · intro h
    obtain ⟨c', hv, hb⟩ := decodeWith_eq_ok_iff.1 h
    obtain ⟨t, ht, htv⟩ := tree_of_value (Cursor.start_within bytes).fuel hv
    exact ⟨t, decodeWith_eq_ok_iff.2 ⟨c', ht, hb⟩, htv⟩
  · rintro ⟨t, ht, rfl⟩
    obtain ⟨c', ht, hb⟩ := decodeWith_eq_ok_iff.1 ht
    exact decodeWith_eq_ok_iff.2 ⟨c', (value_of_tree_all _).1 _ _ _ ht, hb⟩

/-- The value of the tree a whole text reads as is canonical, with the nesting a text starts
with. -/
theorem canonical_of_decodeWith_tree {bytes : List UInt8} {t : Tree}
    (h : decodeWith tree bytes = .ok t) : t.toValue.Canonical 128 := by
  obtain ⟨c', ht, -⟩ := decodeWith_eq_ok_iff.1 h
  exact Tree.canonical_toValue t (tree_fits ht)

/-- A text whose objects each hold a key once: it reads as a tree with distinct keys. -/
def KeysOnce (bytes : List UInt8) : Prop :=
  ∃ t, decodeWith tree bytes = .ok t ∧ t.KeysDistinct

theorem tree_of_keysOnce {bytes : List UInt8} {v : Value} (hk : KeysOnce bytes)
    (hv : Value.decode bytes = .ok v) :
    ∃ t, decodeWith tree bytes = .ok t ∧ t.KeysDistinct ∧ t.toValue = v := by
  obtain ⟨t, ht, hd⟩ := hk
  obtain ⟨t', ht', rfl⟩ := (decode_iff_tree bytes v).1 hv
  rw [ht] at ht'
  cases ht'
  exact ⟨t, ht, hd, rfl⟩

section Compact

variable {v : Value} (hc : v.Canonical 128)
  (hfl : ∀ x, Number.float x ∈ v.numbers → (Number.float x).ReadsBack)
include hc hfl

/-- The compact text of a canonical value holds each key once in each object. -/
theorem keysOnce_compact : KeysOnce (encode v.compact) :=
  ⟨_, decodeWith_tree_compact hc hfl, keysDistinct_ofValue v hc⟩

/-- The compact text of a canonical value reads as the value, when its floats read back. -/
theorem decode_compact : Value.decode (encode v.compact) = .ok v :=
  (decode_iff_tree _ v).2 ⟨_, decodeWith_tree_compact hc hfl, Tree.toValue_ofValue v hc⟩

end Compact

end CiClient.Json

namespace CiClient.Job

open CiClient.Json
open CiClient.Json.Decode
open CiClient.Json.Reader
open CiClient.Text.Utf8 (encode)

/-! ### The tree decoders of the documents -/

theorem reads_buildRef : Reads buildRefOf BuildRef.ofValue := by
  intro t ht
  cases t with
  | object fs =>
    obtain ⟨hnd, hfs⟩ := ht
    simp only [buildRefOf, BuildRef.ofValue, Tree.toValue, reads_nat.single_valuesAt hnd hfs,
      reads_str.orNull.optional_valuesAt hnd hfs, buildRefOthers, fieldValues_filter]
    -- the `url` is absent or decoded, the same on both sides
    cases lookupField "url" (Tree.fieldValues fs []) <;>
      simp only [Option.bind_eq_bind, Option.elim_none, Option.elim_some, Option.bind_some,
        Option.bind_map, Function.comp_def, Option.getD_none, Option.getD_some]
  | _ => rfl

theorem reads_job : Reads jobOf ofValue := by
  intro t ht
  cases t with
  | object fs =>
    obtain ⟨hnd, hfs⟩ := ht
    simp only [jobOf, ofValue, Tree.toValue, reads_buildRef.listOf.optional_valuesAt hnd hfs,
      reads_buildRef.orNull.optional_valuesAt hnd hfs, jobOthers, fieldValues_filter]
    -- each typed field is absent or decoded, the same on both sides
    cases lookupField "builds" (Tree.fieldValues fs []) <;>
      cases lookupField "firstBuild" (Tree.fieldValues fs []) <;>
      cases lookupField "lastBuild" (Tree.fieldValues fs []) <;>
      simp only [Option.bind_eq_bind, Option.elim_none, Option.elim_some, Option.bind_some,
        Option.bind_map, Function.comp_def, Option.getD_none, Option.getD_some]
  | _ => rfl

theorem reads_summary : Reads summaryOf JobSummary.ofValue := by
  intro t ht
  cases t with
  | object fs =>
    obtain ⟨hnd, hfs⟩ := ht
    simp only [summaryOf, JobSummary.ofValue, Tree.toValue, reads_str.single_valuesAt hnd hfs,
      reads_str.orNull.optional_valuesAt hnd hfs, summaryOthers, fieldValues_filter]
    cases lookupField "url" (Tree.fieldValues fs []) <;>
      cases lookupField "color" (Tree.fieldValues fs []) <;>
      simp only [Option.bind_eq_bind, Option.elim_none, Option.elim_some, Option.bind_some,
        Option.bind_map, Function.comp_def, Option.getD_none, Option.getD_some]
  | _ => rfl

/-! ### Documents read, written and read again -/

section Documents

variable {α : Type}

/-- What decoding a document from a text whose objects each hold a key once does. It succeeds
exactly where the value the text reads as has the document's `shape`; the decoded document is
written as that value with the document's `edit` applied; and the written text decodes to the
same document again, provided every float of it reads back from its text as itself. -/
def Faithful (read : Nat → Reader α) (toValue : α → Value) (shape : Value → Prop)
    (edit : Value → Value) : Prop :=
  ∀ bytes v, KeysOnce bytes → Value.decode bytes = .ok v →
    ((∃ a, decodeWith read bytes = .ok a) ↔ shape v) ∧
    ∀ a, decodeWith read bytes = .ok a → toValue a = edit v ∧
      ((∀ x, Number.float x ∈ (toValue a).numbers → (Number.float x).ReadsBack) →
        decodeWith read (encode (toValue a).compact) = .ok a)

/-- A document type with its reader, the decodings of trees and values the reader follows,
how a document is written, and the shape and edit of the values it is read from; each field
after `edit` is a fact the round trip rests on. -/
structure Document (α : Type) where
  read : Nat → Reader α
  ofTree : Tree → Option α
  ofValue : Value → Option α
  toValue : α → Value
  shape : Value → Prop
  edit : Value → Value
  follows : ∀ F, Follows (read F) ofTree F
  covers : ∀ F, Covers (read F) F
  reads : Reads ofTree ofValue
  ofValue_exists : ∀ v : Value, v.Canonical 128 → ((∃ a, ofValue v = some a) ↔ shape v)
  toValue_eq :
    ∀ (v : Value) (a : α), v.Canonical 128 → ofValue v = some a → toValue a = edit v
  ofValue_edit : ∀ v : Value, v.Canonical 128 → ofValue (edit v) = ofValue v
  canonical_edit : ∀ v : Value, v.Canonical 128 → (edit v).Canonical 128

namespace Document

variable (D : Document α)

/-- A text that reads as a tree with distinct keys decodes as what its value decodes to. -/
theorem decodeWith_iff_ofValue {bytes : List UInt8} {t : Tree} (ht : decodeWith tree bytes = .ok t)
    (hd : t.KeysDistinct) (a : α) :
    decodeWith D.read bytes = .ok a ↔ D.ofValue t.toValue = some a := by
  rw [decodeWith_iff_tree D.follows D.covers, ← D.reads t hd]
  constructor
  · rintro ⟨t', ht', ha⟩
    rw [ht] at ht'
    cases ht'
    exact ha
  · exact fun ha => ⟨t, ht, ha⟩

theorem faithful : Faithful D.read D.toValue D.shape D.edit := by
  intro bytes v hk hv
  obtain ⟨t, ht, hd, rfl⟩ := tree_of_keysOnce hk hv
  have hc := canonical_of_decodeWith_tree ht
  refine ⟨?_, fun a ha => ?_⟩
  · simp only [D.decodeWith_iff_ofValue ht hd]
    exact D.ofValue_exists _ hc
  · have ha := (D.decodeWith_iff_ofValue ht hd a).1 ha
    have hw := D.toValue_eq _ a hc ha
    refine ⟨hw, fun hfl => ?_⟩
    -- the written text reads as the tree of the written value, a canonical value
    have hcw : (D.toValue a).Canonical 128 := hw ▸ D.canonical_edit _ hc
    rw [D.decodeWith_iff_ofValue (decodeWith_tree_compact hcw hfl) (keysDistinct_ofValue _ hcw),
      Tree.toValue_ofValue _ hcw, hw, D.ofValue_edit _ hc, ha]

end Document

end Documents

/-- Build references as documents. -/
def buildRefDocument : Document BuildRef where
  read := BuildRef.read
  ofTree := buildRefOf
  ofValue := BuildRef.ofValue
  toValue := BuildRef.toValue
  shape := IsBuildRef
  edit := buildRefEdit
  follows := buildRef_follows
  covers := buildRef_covers
  reads := reads_buildRef
  ofValue_exists _ hv := buildRef_ofValue_exists hv
  toValue_eq _ _ hv hb := buildRef_toValue hv hb
  ofValue_edit _ hv := buildRef_ofValue_edit hv
  canonical_edit _ hv := hv.dropNull "url"

/-- Jobs as documents. -/
def jobDocument : Document Job where
  read := Job.read
  ofTree := jobOf
  ofValue := ofValue
  toValue := Job.toValue
  shape := IsJob
  edit := jobEdit
  follows := job_follows
  covers := job_covers
  reads := reads_job
  ofValue_exists _ hv := job_ofValue_exists hv
  toValue_eq _ _ hv hj := job_toValue hv hj
  ofValue_edit _ hv := job_ofValue_edit hv
  canonical_edit _ hv := canonical_jobEdit hv (by omega)

/-- Job summaries as documents. -/
def summaryDocument : Document JobSummary where
  read := JobSummary.read
  ofTree := summaryOf
  ofValue := JobSummary.ofValue
  toValue := JobSummary.toValue
  shape := IsJobSummary
  edit := summaryEdit
  follows F := summaryOf_eq_fold ▸ summary_follows F
  covers := summary_covers
  reads := reads_summary
  ofValue_exists _ _ := summary_ofValue_exists
  toValue_eq _ _ hv hs := summary_toValue hv hs
  ofValue_edit _ hv := summary_ofValue_edit hv
  canonical_edit _ hv := canonical_summaryEdit hv

/-- Jobs, build references and job summaries are each read exactly from the values of their
shape, written back as those values edited, and read back from what is written. -/
theorem job_documents_faithful :
    Faithful Job.read Job.toValue IsJob jobEdit ∧
    Faithful BuildRef.read BuildRef.toValue IsBuildRef buildRefEdit ∧
    Faithful JobSummary.read JobSummary.toValue IsJobSummary summaryEdit :=
  ⟨jobDocument.faithful, buildRefDocument.faithful, summaryDocument.faithful⟩

/-- The text `{"lastBuild":{"number":7,"url":null}}` decodes as a job, written as
`{"builds":[],"firstBuild":null,"lastBuild":{"number":7}}`, which decodes to the same job. -/
theorem lastBuild_job_reads_back :
    ∃ j, decodeWith Job.read (encode "\x7b\"lastBuild\":\x7b\"number\":7,\"url\":null\x7d\x7d") = .ok j ∧
      j.toValue.compact = "\x7b\"builds\":[],\"firstBuild\":null,\"lastBuild\":\x7b\"number\":7\x7d\x7d" ∧
      decodeWith Job.read (encode j.toValue.compact) = .ok j := by
  -- the text is the compact text of a canonical value whose only number is an integer
  obtain ⟨v, htext, hc, hnum, hshape, hedit, hedit'⟩ : ∃ v : Value,
      v.compact = "\x7b\"lastBuild\":\x7b\"number\":7,\"url\":null\x7d\x7d" ∧ v.Canonical 128 ∧
      v.numbers = [.unsigned 7] ∧ IsJob v ∧
      (jobEdit v).compact = "\x7b\"builds\":[],\"firstBuild\":null,\"lastBuild\":\x7b\"number\":7\x7d\x7d" ∧
      (jobEdit v).numbers = [.unsigned 7] :=
    ⟨.object [("lastBuild", .object [("number", .nat 7), ("url", .null)])], by decide +kernel,
      ⟨by decide, List.pairwise_singleton _ _,
        ⟨⟨by decide, List.pairwise_pair.2 (by decide), (by decide : 7 < Nat.pow 2 64), trivial,
          trivial⟩, trivial⟩⟩,
      by decide,
      ⟨Or.inl rfl, Or.inl rfl, Or.inr (Or.inr ⟨_, rfl, ⟨7, by decide, rfl⟩, Or.inr (Or.inl rfl)⟩)⟩,
      by decide +kernel, by decide +kernel⟩
  have hfl : ∀ (x : Number.Binary64) (ns : List Number), ns = [.unsigned 7] →
      Number.float x ∈ ns → (Number.float x).ReadsBack := by
    rintro x _ rfl hx
    simp at hx
  obtain ⟨hread, hback⟩ := job_documents_faithful.1 _ v (keysOnce_compact hc (hfl · _ hnum))
    (decode_compact hc (hfl · _ hnum))
  obtain ⟨j, hj⟩ := hread.2 hshape
  obtain ⟨hw, hre⟩ := hback j hj
  rw [htext] at hj
  exact ⟨j, hj, hw ▸ hedit, hre (hfl · _ (hw ▸ hedit'))⟩

/-- Decoding a job's written text need not give the job back. The float of
`{"x":6.458023373509767e+242}` is written `6.458023373509768e+242`, and the decoder's fast float
reading takes that text to the next float, written `6.458023373509769e+242`. -/
theorem reread_moves_float :
    KeysOnce (encode "\x7b\"x\":6.458023373509767e+242\x7d") ∧
    ∃ j, decodeWith Job.read (encode "\x7b\"x\":6.458023373509767e+242\x7d") = .ok j ∧
      decodeWith Job.read (encode j.toValue.compact) ≠ .ok j := by
  have hcheck : (decodeWith tree (encode "\x7b\"x\":6.458023373509767e+242\x7d")).toOption.map
      Tree.keysDistinctCheck = some true := by
    decide +kernel
  have hread : (decodeWith Job.read (encode "\x7b\"x\":6.458023373509767e+242\x7d")).toOption.map
      (fun j => j.toValue.compact) =
        some "\x7b\"builds\":[],\"firstBuild\":null,\"lastBuild\":null,\"x\":6.458023373509768e+242\x7d" := by
    decide +kernel
  have hreread : (decodeWith Job.read (encode
      "\x7b\"builds\":[],\"firstBuild\":null,\"lastBuild\":null,\"x\":6.458023373509768e+242\x7d")).toOption.map
      (fun j => j.toValue.compact) =
        some "\x7b\"builds\":[],\"firstBuild\":null,\"lastBuild\":null,\"x\":6.458023373509769e+242\x7d" := by
    decide +kernel
  refine ⟨?_, ?_⟩
  · -- the text reads as a tree with distinct keys
    cases ht : decodeWith tree (encode "\x7b\"x\":6.458023373509767e+242\x7d") with
    | error e =>
      rw [ht] at hcheck
      cases hcheck
    | ok t =>
      rw [ht] at hcheck
      exact ⟨t, ht, (Tree.keysDistinctCheck_iff t).1 (Option.some.inj hcheck)⟩
  · cases hj : decodeWith Job.read (encode "\x7b\"x\":6.458023373509767e+242\x7d") with
    | error e =>
      rw [hj] at hread
      cases hread
    | ok j =>
      rw [hj] at hread
      have hs : j.toValue.compact =
          "\x7b\"builds\":[],\"firstBuild\":null,\"lastBuild\":null,\"x\":6.458023373509768e+242\x7d" :=
        Option.some.inj hread
      refine ⟨j, rfl, fun hre => ?_⟩
      rw [hs] at hre
      rw [hre] at hreread
      have hs' := hs.symm.trans (Option.some.inj hreread)
      exact absurd hs' (by decide)

end CiClient.Job
