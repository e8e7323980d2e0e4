import CiClient.Proofs.JobListDocument
import CiClient.Proofs.CompactReading
/-!
# Build references and jobs as decodings of trees

A build reference is read by `BuildRef.read`: an object with one `number`, an unsigned 64-bit
integer, a `url` at most once, a string or `null`, and every other field kept as a value. A job is
read by `Job.read`: an object with `builds` at most once, a list of build references, `firstBuild`
and `lastBuild` at most once each, a build reference or `null`, and every other field kept.

`buildRefOf` and `jobOf` say the same of trees, as `summaryOf` does for a job summary. A whole
text decodes as any of the three exactly where the tree it reads as decodes so
(`decodeWith_iff_tree`).
-/

namespace CiClient.Json

namespace Tree

/-- A non-negative integer, the only number an unsigned 64-bit field takes. -/
def nat? : Tree → Option Nat
  | .number (.unsigned n) => some n
  | _ => none

end Tree

namespace Decode

open Reader CiClient.Json.Tree

variable {α : Type}

theorem fails_mismatch (m : Mismatch) : Fails (mismatch m : Reader α) :=
  fails_bind fun e => fails_throw e

theorem Fails.bind {β : Type} {x : Reader α} (hx : Fails x) (f : α → Reader β) : Fails (x >>= f) :=
  fun c => by
    obtain ⟨e, c₁, he⟩ := hx c
    exact ⟨e, c₁, exec_bind_of_error he f⟩

/-- What follows the number of an unsigned 64-bit field: only an unsigned integer is kept. -/
theorem agrees_u64_number (x : Number) (c : Cursor) :
    Agrees ((match x with
      | .unsigned k => pure k
      | .signed k => mismatch (.invalidValue (.signed k) "u64")
      | .float f => mismatch (.invalidType (.float f) "u64") : Reader Nat).exec c)
      (Tree.number x).nat? c := by
  cases x with
  | unsigned k => rfl
  | signed k => exact (fails_mismatch _).agrees _ _
  | float f => exact (fails_mismatch _).agrees _ _

theorem u64_number_ok {x : Number} {c c' : Cursor} {k : Nat}
    (h : (match x with
      | .unsigned k => pure k
      | .signed k => mismatch (.invalidValue (.signed k) "u64")
      | .float f => mismatch (.invalidType (.float f) "u64") : Reader Nat).exec c = (.ok k, c')) :
    x = .unsigned k ∧ c = c' := by
  cases x with
  | unsigned k' =>
    obtain ⟨rfl, rfl⟩ := exec_pure_ok_inv h
    exact ⟨rfl, rfl⟩
  | signed k' => exact absurd h (not_ok_of_fails (fails_mismatch _))
  | float f => exact absurd h (not_ok_of_fails (fails_mismatch _))

theorem follows_u64 (F : Nat) : Follows u64 Tree.nat? F := by
  intro n c t c' hn hc h
  cases n with
  | zero => simp [tree, exec_failAhead] at h
  | succ n =>
  obtain ⟨b, hb, ht⟩ := tree_succ_inv h
  unfold u64
  rw [exec_bind, exec_blank, hb]
  dsimp only
  by_cases hm : b = 0x2D
  · -- a negative number, read after its sign
    subst hm
    rw [treeAt_minus] at ht
    obtain ⟨u, c₁, he, ht⟩ := exec_bind_ok_inv ht
    obtain ⟨x, c₂, hx, hp⟩ := exec_bind_ok_inv ht
    obtain ⟨rfl, rfl⟩ := exec_pure_ok_inv hp
    rw [if_pos rfl, exec_bind_of_ok he, exec_bind_of_ok hx]
    exact agrees_u64_number x _
  by_cases hd : Scalar.isDigit b = true
  · -- a number from its first digit
    rw [treeAt_digit _ _ hd] at ht
    obtain ⟨x, c₂, hx, hp⟩ := exec_bind_ok_inv ht
    obtain ⟨rfl, rfl⟩ := exec_pure_ok_inv hp
    rw [if_neg hm, if_pos hd, exec_bind_of_ok hx]
    exact agrees_u64_number x _
  · -- any other octet starts a tree that is not a number
    have hnone : t.nat? = none := by
      have := treeAt_startsWith ht
      cases t with
      | number x => exact absurd this (by simp [StartsWith, hm, hd])
      | _ => rfl
    rw [hnone, if_neg hm, if_neg hd]
    exact ((fails_wrongType _).bind _).agrees _ _

theorem covers_u64 (F : Nat) : Covers u64 F := by
  intro c k c' hroom h
  obtain ⟨F, rfl⟩ : ∃ F', F = F' + 1 := ⟨F - 1, by omega⟩
  unfold u64 at h
  have h := blank_ok_inv h
  split at h
  · exact absurd h (not_ok_of_fails (fails_failAhead _))
  rename_i b hb
  rw [exec_tree_succ_of_head hb]
  by_cases hm : b = 0x2D
  · -- the sign, then the number
    subst hm
    rw [if_pos rfl] at h
    obtain ⟨u, c₁, he, h⟩ := exec_bind_ok_inv h
    obtain ⟨x, c₂, hx, h⟩ := exec_bind_ok_inv h
    obtain ⟨-, rfl⟩ := u64_number_ok h
    rw [treeAt_minus, exec_bind_of_ok he, exec_bind_of_ok hx]
    exact ⟨_, rfl⟩
  by_cases hd : Scalar.isDigit b = true
  · rw [if_neg hm, if_pos hd] at h
    obtain ⟨x, c₂, hx, h⟩ := exec_bind_ok_inv h
    obtain ⟨-, rfl⟩ := u64_number_ok h
    rw [treeAt_digit _ _ hd, exec_bind_of_ok hx]
    exact ⟨_, rfl⟩
  · rw [if_neg hm, if_neg hd] at h
    exact absurd h (not_ok_of_fails ((fails_wrongType _).bind _))

/-- A typed reader that follows a decoding of trees and is covered by the tree reader decodes a
whole text exactly where the tree it reads as decodes. -/
theorem decodeWith_iff_tree {r : Nat → Reader α} {D : Tree → Option α}
    (hf : ∀ F, Follows (r F) D F) (hc : ∀ F, Covers (r F) F) (bytes : List UInt8) (a : α) :
    decodeWith r bytes = .ok a ↔ ∃ t, decodeWith tree bytes = .ok t ∧ D t = some a := by
  have hw := Cursor.start_within bytes
  constructor
  · intro h
    obtain ⟨c', hr, hb⟩ := decodeWith_eq_ok_iff.1 h
    obtain ⟨t, ht⟩ := hc _ _ _ _ hw.fuel hr
    have hag := hf _ _ _ t _ le_rfl hw ht
    refine ⟨t, decodeWith_eq_ok_iff.2 ⟨c', ht, hb⟩, ?_⟩
    -- the typed reading and the decoding of the tree agree, so the decoding is `a`
    cases hd : D t with
    | none =>
      rw [hd] at hag
      obtain ⟨e, c₁, he⟩ := hag
      rw [hr] at he
      cases he
    | some a' =>
      rw [hd] at hag
      have hag : (r (fuelFor bytes.length)).exec (Cursor.start bytes) = (.ok a', c') := hag
      rw [hr] at hag
      simp only [Prod.mk.injEq, Except.ok.injEq, and_true] at hag
      rw [hag]
  · rintro ⟨t, ht, hd⟩
    obtain ⟨c', hs, hb⟩ := decodeWith_eq_ok_iff.1 ht
    have hag := hf _ _ _ t _ le_rfl hw hs
    rw [hd] at hag
    exact decodeWith_eq_ok_iff.2 ⟨c', hag, hb⟩

end Decode

end CiClient.Json

namespace CiClient.Job

open CiClient.Json
open CiClient.Json.Decode
open CiClient.Json.Reader
open CiClient.Json.Tree

/-! ### Build references -/

/-- The fields a build reference keeps as they are. -/
def buildRefOthers (fs : List (String × Tree)) : List (String × Tree) :=
  fs.filter fun f => f.1 ∉ ["number", "url"]

/-- The build reference a tree stands for: an object with one non-negative integer `number`, a
`url` at most once, a string or `null`, and its other fields kept as values. -/
def buildRefOf : Tree → Option BuildRef
  | .object fs => do
    let number ← single nat? (valuesAt fs "number")
    let url ← optional (orNull str?) (valuesAt fs "url")
    return ⟨number, url.getD none, fieldValues (buildRefOthers fs) []⟩
  | _ => none

/-- One field of a build reference's object, decoded into the fields read before it: `number`
and `url` each at most once, any other field kept. -/
def buildRefStep (st : BuildRefFields) (k : String) : Tree → Option BuildRefFields :=
  if k = "number" then fun t =>
    (if st.number.isSome then none else nat? t).map fun n => { st with number := some n }
  else if k = "url" then fun t =>
    (if st.url.isSome then none else orNull str? t).map fun u => { st with url := some u }
  else fun t => some { st with extra := insertField k t.toValue st.extra }

def buildRefFinish (st : BuildRefFields) : Option BuildRef :=
  st.number.map fun n => ⟨n, st.url.getD none, st.extra⟩

theorem buildRefOthers_cons_of_mem {k : String} (hk : k ∈ ["number", "url"]) (t : Tree)
    (fs : List (String × Tree)) : buildRefOthers ((k, t) :: fs) = buildRefOthers fs := by
  simp only [buildRefOthers, List.filter_cons, hk, not_true_eq_false, decide_false,
    Bool.false_eq_true, if_false]

theorem buildRefOthers_cons_of_not_mem {k : String} (hk : k ∉ ["number", "url"]) (t : Tree)
    (fs : List (String × Tree)) :
    buildRefOthers ((k, t) :: fs) = (k, t) :: buildRefOthers fs := by
  simp only [buildRefOthers, List.filter_cons, hk, not_false_eq_true, decide_true, if_true]

section Steps

variable (st : BuildRefFields) (t : Tree)

theorem buildRefStep_number : buildRefStep st "number" t =
    (if st.number.isSome then none else nat? t).map fun n => { st with number := some n } := rfl

theorem buildRefStep_url : buildRefStep st "url" t =
    (if st.url.isSome then none else orNull str? t).map fun u => { st with url := some u } := rfl

theorem buildRefStep_other {k : String} (hk : k ∉ ["number", "url"]) :
    buildRefStep st k t = some { st with extra := insertField k t.toValue st.extra } := by
  simp only [List.mem_cons, List.not_mem_nil, or_false, not_or] at hk
  simp only [buildRefStep, hk.1, hk.2, if_false]

end Steps

theorem foldlM_buildRefStep (fs : List (String × Tree)) (st : BuildRefFields) :
    fs.foldlM (fun st f => buildRefStep st f.1 f.2) st = (do
      let number ← onceFrom st.number nat? (valuesAt fs "number")
      let url ← onceFrom st.url (orNull str?) (valuesAt fs "url")
      return { number, url, extra := fieldValues (buildRefOthers fs) st.extra }) := by
  induction fs generalizing st with
  | nil => rfl
  | cons f fs ih =>
    obtain ⟨k, t⟩ := f
    rw [List.foldlM_cons]
    by_cases hn : k = "number"
    · subst hn
      rw [buildRefStep_number, valuesAt_cons_self, valuesAt_cons_of_ne (by decide), onceFrom_cons,
        buildRefOthers_cons_of_mem (by simp)]
      cases hs : st.number.isSome <;> cases hd : nat? t <;> simp [ih]
    by_cases hu : k = "url"
    · subst hu
      rw [buildRefStep_url, valuesAt_cons_self, valuesAt_cons_of_ne (by decide), onceFrom_cons,
        buildRefOthers_cons_of_mem (by simp)]
      cases hs : st.url.isSome <;> cases hd : orNull str? t <;> simp [ih]
    · have hk : k ∉ ["number", "url"] := by simp [hn, hu]
      rw [buildRefStep_other st t hk, valuesAt_cons_of_ne hn, valuesAt_cons_of_ne hu,
        buildRefOthers_cons_of_not_mem hk]
      simp [ih, fieldValues]

/-- Reading a build reference's fields one by one decodes the build reference the tree stands
for. -/
theorem buildRefOf_eq_fold :
    objectOf (fun fs => (fs.foldlM (fun st f => buildRefStep st f.1 f.2) {}).bind buildRefFinish) =
      buildRefOf := by
  funext t
  cases t with
  | object fs =>
    simp only [objectOf, buildRefOf, foldlM_buildRefStep, onceFrom_none, single_eq_optional]
    cases optional nat? (valuesAt fs "number") with
    | none => rfl
    | some number =>
      cases number <;> cases optional (orNull str?) (valuesAt fs "url") <;> rfl
  | _ => rfl

theorem buildRef_follows (F : Nat) : Follows (BuildRef.read F) buildRefOf F := by
  rw [← buildRefOf_eq_fold]
  unfold BuildRef.read
  refine follows_record _ fun m c fs c₁ hm hc h =>
    agrees_bind (entries_agree (fun st k => ?_) m F true c fs c₁ ({} : BuildRefFields) hm hm hc h)
      fun st _ => ?_
  · -- the typed fields are read once each, any other is kept
    unfold buildRefStep
    by_cases hn : k = "number"
    · rw [if_pos hn, if_pos hn]
      exact fieldFollows_map (fieldFollows_once (follows_u64 F) "number" st.number) _
    rw [if_neg hn, if_neg hn]
    by_cases hu : k = "url"
    · rw [if_pos hu, if_pos hu]
      exact fieldFollows_map (fieldFollows_once (follows_option (follows_string F)) "url" st.url) _
    rw [if_neg hu, if_neg hu]
    exact fieldFollows_map (fieldFollows_keepExtra F st.extra k) _
  · unfold buildRefFinish
    cases st.number with
    | none => exact (fails_missing _).agrees _ _
    | some n => rfl

theorem buildRef_covers (F : Nat) : Covers (BuildRef.read F) F := by
  unfold BuildRef.read
  refine covers_record _ fun m c a c₁ hm hF h => ?_
  obtain ⟨st, c₂, hen, hfin⟩ := exec_bind_ok_inv h
  -- the reference is made once the fields are read: only a missing `number` fails there
  have hc₂ : c₂ = c₁ := by
    split at hfin
    · exact absurd hfin (not_ok_of_fails (fails_missing _))
    · exact (exec_pure_ok_inv hfin).2
  subst hc₂
  refine covers_entries (fun st k => ?_) m F true c {} st c₂ hm hF hF hen
  by_cases hn : k = "number"
  · rw [if_pos hn]
    exact fieldCovers_map (fieldCovers_once (covers_u64 F) "number" st.number) _
  rw [if_neg hn]
  by_cases hu : k = "url"
  · rw [if_pos hu]
    exact fieldCovers_map (fieldCovers_once (covers_option (covers_string F)) "url" st.url) _
  rw [if_neg hu]
  exact fieldCovers_map (fieldCovers_keepExtra F st.extra k) _

theorem buildRefs_follows (F : Nat) :
    Follows (list (BuildRef.read F) F) (listOf buildRefOf) F :=
  follows_list (buildRef_follows F)

theorem buildRefs_covers (F : Nat) : Covers (list (BuildRef.read F) F) F :=
  covers_list (buildRef_covers F)

/-! ### Jobs -/

/-- The fields a job keeps as they are. -/
def jobOthers (fs : List (String × Tree)) : List (String × Tree) :=
  fs.filter fun f => f.1 ∉ ["builds", "firstBuild", "lastBuild"]

/-- The job a tree stands for: an object with `builds` at most once, an array of build
references, `firstBuild` and `lastBuild` at most once each, a build reference or `null`, and its
other fields kept as values. -/
def jobOf : Tree → Option Job
  | .object fs => do
    let builds ← optional (listOf buildRefOf) (valuesAt fs "builds")
    let first ← optional (orNull buildRefOf) (valuesAt fs "firstBuild")
    let last ← optional (orNull buildRefOf) (valuesAt fs "lastBuild")
    return ⟨builds.getD [], first.getD none, last.getD none, fieldValues (jobOthers fs) []⟩
  | _ => none

/-- One field of a job's object, decoded into the fields read before it: `builds`, `firstBuild`
and `lastBuild` each at most once, any other field kept. -/
def jobStep (st : JobFields) (k : String) : Tree → Option JobFields :=
  if k = "builds" then fun t =>
    (if st.builds.isSome then none else listOf buildRefOf t).map fun b => { st with builds := some b }
  else if k = "firstBuild" then fun t =>
    (if st.firstBuild.isSome then none else orNull buildRefOf t).map
      fun b => { st with firstBuild := some b }
  else if k = "lastBuild" then fun t =>
    (if st.lastBuild.isSome then none else orNull buildRefOf t).map
      fun b => { st with lastBuild := some b }
  else fun t => some { st with extra := insertField k t.toValue st.extra }

def jobFinish (st : JobFields) : Job :=
  ⟨st.builds.getD [], st.firstBuild.getD none, st.lastBuild.getD none, st.extra⟩

theorem jobOthers_cons_of_mem {k : String} (hk : k ∈ ["builds", "firstBuild", "lastBuild"])
    (t : Tree) (fs : List (String × Tree)) : jobOthers ((k, t) :: fs) = jobOthers fs := by
  simp only [jobOthers, List.filter_cons, hk, not_true_eq_false, decide_false,
    Bool.false_eq_true, if_false]

theorem jobOthers_cons_of_not_mem {k : String} (hk : k ∉ ["builds", "firstBuild", "lastBuild"])
    (t : Tree) (fs : List (String × Tree)) :
    jobOthers ((k, t) :: fs) = (k, t) :: jobOthers fs := by
  simp only [jobOthers, List.filter_cons, hk, not_false_eq_true, decide_true, if_true]

section Steps

variable (st : JobFields) (t : Tree)

theorem jobStep_builds : jobStep st "builds" t =
    (if st.builds.isSome then none else listOf buildRefOf t).map
      fun b => { st with builds := some b } := rfl

theorem jobStep_firstBuild : jobStep st "firstBuild" t =
    (if st.firstBuild.isSome then none else orNull buildRefOf t).map
      fun b => { st with firstBuild := some b } := rfl

theorem jobStep_lastBuild : jobStep st "lastBuild" t =
    (if st.lastBuild.isSome then none else orNull buildRefOf t).map
      fun b => { st with lastBuild := some b } := rfl

theorem jobStep_other {k : String} (hk : k ∉ ["builds", "firstBuild", "lastBuild"]) :
    jobStep st k t = some { st with extra := insertField k t.toValue st.extra } := by
  simp only [List.mem_cons, List.not_mem_nil, or_false, not_or] at hk
  simp only [jobStep, hk.1, hk.2.1, hk.2.2, if_false]

end Steps

theorem foldlM_jobStep (fs : List (String × Tree)) (st : JobFields) :
    fs.foldlM (fun st f => jobStep st f.1 f.2) st = (do
      let builds ← onceFrom st.builds (listOf buildRefOf) (valuesAt fs "builds")
      let firstBuild ← onceFrom st.firstBuild (orNull buildRefOf) (valuesAt fs "firstBuild")
      let lastBuild ← onceFrom st.lastBuild (orNull buildRefOf) (valuesAt fs "lastBuild")
      return { builds, firstBuild, lastBuild, extra := fieldValues (jobOthers fs) st.extra }) := by
  induction fs generalizing st with
  | nil => rfl
  | cons f fs ih =>
    obtain ⟨k, t⟩ := f
    rw [List.foldlM_cons]
    by_cases hb : k = "builds"
    · subst hb
      rw [jobStep_builds, valuesAt_cons_self, valuesAt_cons_of_ne (by decide),
        valuesAt_cons_of_ne (by decide), onceFrom_cons, jobOthers_cons_of_mem (by simp)]
      cases hs : st.builds.isSome <;> cases hd : listOf buildRefOf t <;> simp [ih]
    by_cases hf : k = "firstBuild"
    · subst hf
      rw [jobStep_firstBuild, valuesAt_cons_self, valuesAt_cons_of_ne (by decide),
        valuesAt_cons_of_ne (by decide), onceFrom_cons, jobOthers_cons_of_mem (by simp)]
      cases hs : st.firstBuild.isSome <;> cases hd : orNull buildRefOf t <;> simp [ih]
    by_cases hl : k = "lastBuild"
    · subst hl
      rw [jobStep_lastBuild, valuesAt_cons_self, valuesAt_cons_of_ne (by decide),
        valuesAt_cons_of_ne (by decide), onceFrom_cons, jobOthers_cons_of_mem (by simp)]
      cases hs : st.lastBuild.isSome <;> cases hd : orNull buildRefOf t <;> simp [ih]
    · have hk : k ∉ ["builds", "firstBuild", "lastBuild"] := by simp [hb, hf, hl]
      rw [jobStep_other st t hk, valuesAt_cons_of_ne hb, valuesAt_cons_of_ne hf,
        valuesAt_cons_of_ne hl, jobOthers_cons_of_not_mem hk]
      simp [ih, fieldValues]

/-- Reading a job's fields one by one decodes the job the tree stands for. -/
theorem jobOf_eq_fold :
    objectOf (fun fs => (fs.foldlM (fun st f => jobStep st f.1 f.2) {}).map jobFinish) = jobOf := by
  funext t
  cases t with
  | object fs =>
    simp only [objectOf, jobOf, foldlM_jobStep, onceFrom_none]
    cases optional (listOf buildRefOf) (valuesAt fs "builds") <;>
      cases optional (orNull buildRefOf) (valuesAt fs "firstBuild") <;>
      cases optional (orNull buildRefOf) (valuesAt fs "lastBuild") <;> rfl
  | _ => rfl

theorem job_follows (F : Nat) : Follows (Job.read F) jobOf F := by
  rw [← jobOf_eq_fold]
  unfold Job.read
  refine follows_record _ fun m c fs c₁ hm hc h =>
    agrees_map jobFinish (entries_agree (fun st k => ?_) m F true c fs c₁ ({} : JobFields) hm hm hc h)
  -- the build references are read once each, any other field is kept
  unfold jobStep
  by_cases hb : k = "builds"
  · rw [if_pos hb, if_pos hb]
    exact fieldFollows_map (fieldFollows_once (buildRefs_follows F) "builds" st.builds) _
  rw [if_neg hb, if_neg hb]
  by_cases hf : k = "firstBuild"
  · rw [if_pos hf, if_pos hf]
    exact fieldFollows_map
      (fieldFollows_once (follows_option (buildRef_follows F)) "firstBuild" st.firstBuild) _
  rw [if_neg hf, if_neg hf]
  by_cases hl : k = "lastBuild"
  · rw [if_pos hl, if_pos hl]
    exact fieldFollows_map
      (fieldFollows_once (follows_option (buildRef_follows F)) "lastBuild" st.lastBuild) _
  rw [if_neg hl, if_neg hl]
  exact fieldFollows_map (fieldFollows_keepExtra F st.extra k) _

theorem job_covers (F : Nat) : Covers (Job.read F) F := by
  unfold Job.read
  refine covers_record _ fun m c a c₁ hm hF h => ?_
  obtain ⟨st, c₂, hen, hfin⟩ := exec_bind_ok_inv h
  obtain ⟨-, rfl⟩ := exec_pure_ok_inv hfin
  refine covers_entries (fun st k => ?_) m F true c {} st c₂ hm hF hF hen
  by_cases hb : k = "builds"
  · rw [if_pos hb]
    exact fieldCovers_map (fieldCovers_once (buildRefs_covers F) "builds" st.builds) _
  rw [if_neg hb]
  by_cases hf : k = "firstBuild"
  · rw [if_pos hf]
    exact fieldCovers_map
      (fieldCovers_once (covers_option (buildRef_covers F)) "firstBuild" st.firstBuild) _
  rw [if_neg hf]
  by_cases hl : k = "lastBuild"
  · rw [if_pos hl]
    exact fieldCovers_map
      (fieldCovers_once (covers_option (buildRef_covers F)) "lastBuild" st.lastBuild) _
  rw [if_neg hl]
  exact fieldCovers_map (fieldCovers_keepExtra F st.extra k) _

/-! ### Whole texts -/

/-- A whole text decodes as a build reference exactly where its tree stands for one. -/
theorem decodeWith_buildRef_iff (bytes : List UInt8) (b : BuildRef) :
    decodeWith BuildRef.read bytes = .ok b ↔
      ∃ t, decodeWith tree bytes = .ok t ∧ buildRefOf t = some b :=
  decodeWith_iff_tree buildRef_follows buildRef_covers bytes b

/-- A whole text decodes as a job exactly where its tree stands for one. -/
theorem decodeWith_job_iff (bytes : List UInt8) (j : Job) :
    decodeWith Job.read bytes = .ok j ↔ ∃ t, decodeWith tree bytes = .ok t ∧ jobOf t = some j :=
  decodeWith_iff_tree job_follows job_covers bytes j

/-- A whole text decodes as a job summary exactly where its tree stands for one. -/
theorem decodeWith_summary_iff (bytes : List UInt8) (s : JobSummary) :
    decodeWith JobSummary.read bytes = .ok s ↔
      ∃ t, decodeWith tree bytes = .ok t ∧ summaryOf t = some s :=
  decodeWith_iff_tree (fun F => summaryOf_eq_fold ▸ summary_follows F) summary_covers bytes s

end CiClient.Job
