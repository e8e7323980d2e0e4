import CiClient.Proofs.TypedReading
import CiClient.Proofs.OperationCalls
import CiClient.Service.Script
/-!
# The job list of a root document

The job list is read from the root document by `readJobList`: an object whose field `jobs` is
read once as a list of job summaries while every other field is skipped, or, the other form of a
structure, an array holding the list alone. A job summary is an object with one string `name`,
`url` and `color` at most once each, a string or `null`, and every other field kept as a value.

`rootJobs` and `summaryOf` say the same of trees. The reader succeeds exactly where skimming the
body for `jobs` reads a document whose `rootJobs` is the list (`jobList_iff_skim`); for a body
that is a JSON text, that is the `rootJobs` of the tree it reads as (`jobList_of_tree`). The
fields other than `jobs` are only skipped, so they may hold what the value reader refuses: text
that is not UTF-8, numbers out of range, nesting past the limit.
-/

namespace CiClient.Job

open CiClient.Json
open CiClient.Json.Decode
open CiClient.Json.Reader
open CiClient.Json.Tree

/-- The values of the fields of key `k`, in order. -/
def valuesAt (fs : List (String × Tree)) (k : String) : List Tree :=
  (fs.filter fun f => f.1 = k).map (·.2)

/-- A field given exactly once, decoded by `D`. -/
def single {α : Type} (D : Tree → Option α) : List Tree → Option α
  | [t] => D t
  | _ => none

/-- A field given at most once: none when left out. -/
def optional {α : Type} (D : Tree → Option α) : List Tree → Option (Option α)
  | [] => some none
  | [t] => (D t).map some
  | _ => none

/-- The fields a job summary keeps as they are. -/
def summaryOthers (fs : List (String × Tree)) : List (String × Tree) :=
  fs.filter fun f => f.1 ∉ ["name", "url", "color"]

/-- The job summary a tree stands for: an object with one string `name`, with `url` and
`color` each at most once, a string or `null`, and its other fields kept as values. -/
def summaryOf : Tree → Option JobSummary
  | .object fs => do
    let name ← single str? (valuesAt fs "name")
    let url ← optional (orNull str?) (valuesAt fs "url")
    let color ← optional (orNull str?) (valuesAt fs "color")
    return ⟨name, url.getD none, color.getD none,
      fieldValues (summaryOthers fs) []⟩
  | _ => none

/-- The job list a root document stands for: an object with one `jobs` field, or an array
holding the list alone; either way an array of job summaries. The object's other fields are
not read. -/
def rootJobs : Tree → Option (List JobSummary)
  | .object fs => single (listOf summaryOf) (valuesAt fs "jobs")
  | .array ts => single (listOf summaryOf) ts
  | _ => none

/-- One field of a job summary's object, decoded into the fields read before it: `name`, `url`
and `color` each at most once, any other field kept. -/
def summaryStep (st : JobSummaryFields) (k : String) : Tree → Option JobSummaryFields :=
  if k = "name" then fun t =>
    (if st.name.isSome then none else str? t).map fun n => { st with name := some n }
  else if k = "url" then fun t =>
    (if st.url.isSome then none else orNull str? t).map fun u => { st with url := some u }
  else if k = "color" then fun t =>
    (if st.color.isSome then none else orNull str? t).map fun u => { st with color := some u }
  else fun t => some { st with extra := insertField k t.toValue st.extra }

def summaryFinish (st : JobSummaryFields) : Option JobSummary :=
  st.name.map fun n => ⟨n, st.url.getD none, st.color.getD none, st.extra⟩

/-- A field read at most once, after `seen` was read for it, with `vs` its values to come. -/
def onceFrom {α : Type} (seen : Option α) (D : Tree → Option α) : List Tree → Option (Option α)
  | [] => some seen
  | [t] => if seen.isSome then none else (D t).map some
  | _ => none

theorem onceFrom_cons {α : Type} (seen : Option α) (D : Tree → Option α) (t : Tree)
    (vs : List Tree) :
    onceFrom seen D (t :: vs) =
      if seen.isSome then none else (D t).bind fun a => onceFrom (some a) D vs := by
  rcases vs with _ | ⟨v, _ | ⟨w, vs⟩⟩ <;> cases seen <;> cases hd : D t <;> simp [onceFrom, hd]

theorem onceFrom_none {α : Type} (D : Tree → Option α) (vs : List Tree) :
    onceFrom none D vs = optional D vs := by
  rcases vs with _ | ⟨v, _ | ⟨w, vs⟩⟩ <;> rfl

theorem single_eq_optional {α : Type} (D : Tree → Option α) (vs : List Tree) :
    single D vs = (optional D vs).bind id := by
  rcases vs with _ | ⟨v, _ | ⟨w, vs⟩⟩
  · rfl
  · simp only [single, optional]
    cases D v <;> rfl
  · rfl

@[simp] theorem valuesAt_nil (k : String) : valuesAt [] k = [] := rfl

theorem valuesAt_cons_self (k : String) (t : Tree) (fs : List (String × Tree)) :
    valuesAt ((k, t) :: fs) k = t :: valuesAt fs k := by
  simp [valuesAt]

theorem valuesAt_cons_of_ne {k k' : String} (h : k ≠ k') (t : Tree) (fs : List (String × Tree)) :
    valuesAt ((k, t) :: fs) k' = valuesAt fs k' := by
  simp [valuesAt, h]

theorem summaryOthers_cons_of_mem {k : String} (hk : k ∈ ["name", "url", "color"]) (t : Tree)
    (fs : List (String × Tree)) : summaryOthers ((k, t) :: fs) = summaryOthers fs := by
  simp only [summaryOthers, List.filter_cons, hk, not_true_eq_false, decide_false,
    Bool.false_eq_true, if_false]

theorem summaryOthers_cons_of_not_mem {k : String} (hk : k ∉ ["name", "url", "color"]) (t : Tree)
    (fs : List (String × Tree)) :
    summaryOthers ((k, t) :: fs) = (k, t) :: summaryOthers fs := by
  simp only [summaryOthers, List.filter_cons, hk, not_false_eq_true, decide_true, if_true]

section Steps

variable (st : JobSummaryFields) (t : Tree)

theorem summaryStep_name : summaryStep st "name" t =
    (if st.name.isSome then none else str? t).map fun n => { st with name := some n } := rfl

theorem summaryStep_url : summaryStep st "url" t =
    (if st.url.isSome then none else orNull str? t).map fun u => { st with url := some u } := rfl

theorem summaryStep_color : summaryStep st "color" t =
    (if st.color.isSome then none else orNull str? t).map fun u => { st with color := some u } := rfl

theorem summaryStep_other {k : String} (hk : k ∉ ["name", "url", "color"]) :
    summaryStep st k t = some { st with extra := insertField k t.toValue st.extra } := by
  simp only [List.mem_cons, List.not_mem_nil, or_false, not_or] at hk
  simp only [summaryStep, hk.1, hk.2.1, hk.2.2, if_false]

end Steps

theorem foldlM_summaryStep (fs : List (String × Tree)) (st : JobSummaryFields) :
    fs.foldlM (fun st f => summaryStep st f.1 f.2) st = (do
      let name ← onceFrom st.name str? (valuesAt fs "name")
      let url ← onceFrom st.url (orNull str?) (valuesAt fs "url")
      let color ← onceFrom st.color (orNull str?) (valuesAt fs "color")
      return { name, url, color, extra := fieldValues (summaryOthers fs) st.extra }) := by
  induction fs generalizing st with
  | nil => rfl
  | cons f fs ih =>
    obtain ⟨k, t⟩ := f
    rw [List.foldlM_cons]
    by_cases hn : k = "name"
    · subst hn
      rw [summaryStep_name, valuesAt_cons_self, valuesAt_cons_of_ne (by decide),
        valuesAt_cons_of_ne (by decide), onceFrom_cons, summaryOthers_cons_of_mem (by simp)]
      cases hs : st.name.isSome <;> cases hd : str? t <;> simp [ih]
    by_cases hu : k = "url"
    · subst hu
      rw [summaryStep_url, valuesAt_cons_self, valuesAt_cons_of_ne (by decide),
        valuesAt_cons_of_ne (by decide), onceFrom_cons, summaryOthers_cons_of_mem (by simp)]
      cases hs : st.url.isSome <;> cases hd : orNull str? t <;> simp [ih]
    by_cases hc : k = "color"
    · subst hc
      rw [summaryStep_color, valuesAt_cons_self, valuesAt_cons_of_ne (by decide),
        valuesAt_cons_of_ne (by decide), onceFrom_cons, summaryOthers_cons_of_mem (by simp)]
      cases hs : st.color.isSome <;> cases hd : orNull str? t <;> simp [ih]
    · have hk : k ∉ ["name", "url", "color"] := by simp [hn, hu, hc]
      rw [summaryStep_other st t hk, valuesAt_cons_of_ne hn, valuesAt_cons_of_ne hu,
        valuesAt_cons_of_ne hc, summaryOthers_cons_of_not_mem hk]
      simp [ih, fieldValues]

/-- Reading a job summary's fields one by one decodes the summary the tree stands for. -/
theorem summaryOf_eq_fold :
    objectOf (fun fs => (fs.foldlM (fun st f => summaryStep st f.1 f.2) {}).bind summaryFinish) =
      summaryOf := by
  funext t
  cases t with
  | object fs =>
    simp only [objectOf, summaryOf, foldlM_summaryStep, onceFrom_none, single_eq_optional]
    cases optional str? (valuesAt fs "name") with
    | none => rfl
    | some name =>
      cases name <;> cases optional (orNull str?) (valuesAt fs "url") <;>
        cases optional (orNull str?) (valuesAt fs "color") <;> rfl
  | _ => rfl

theorem summary_follows (F : Nat) :
    Follows (JobSummary.read F)
      (objectOf fun fs => (fs.foldlM (fun st f => summaryStep st f.1 f.2) {}).bind summaryFinish)
      F := by
  unfold JobSummary.read
  refine follows_record _ fun m c fs c₁ hm hc h =>
    agrees_bind (entries_agree (fun st k => ?_) m F true c fs c₁ ({} : JobSummaryFields) hm hm hc h)
      fun st _ => ?_
  · -- the typed fields are read once each, any other is kept
    unfold summaryStep
    by_cases hn : k = "name"
    · rw [if_pos hn, if_pos hn]
      exact fieldFollows_map (fieldFollows_once (follows_string F) "name" st.name) _
    rw [if_neg hn, if_neg hn]
    by_cases hu : k = "url"
    · rw [if_pos hu, if_pos hu]
      exact fieldFollows_map (fieldFollows_once (follows_option (follows_string F)) "url" st.url) _
    rw [if_neg hu, if_neg hu]
    by_cases hc : k = "color"
    · rw [if_pos hc, if_pos hc]
      exact fieldFollows_map
        (fieldFollows_once (follows_option (follows_string F)) "color" st.color) _
    rw [if_neg hc, if_neg hc]
    exact fieldFollows_map (fieldFollows_keepExtra F st.extra k) _
  · unfold summaryFinish
    cases st.name with
    | none => exact (fails_missing _).agrees _ _
    | some n => rfl

theorem summary_covers (F : Nat) : Covers (JobSummary.read F) F := by
  unfold JobSummary.read
  refine covers_record _ fun m c a c₁ hm hF h => ?_
  obtain ⟨st, c₂, hen, hfin⟩ := exec_bind_ok_inv h
  -- the summary is made once the fields are read: only a missing `name` fails there
  have hc₂ : c₂ = c₁ := by
    split at hfin
    · exact absurd hfin (not_ok_of_fails (fails_missing _))
    · exact (exec_pure_ok_inv hfin).2
  subst hc₂
  refine covers_entries (fun st k => ?_) m F true c {} st c₂ hm hF hF hen
  by_cases hn : k = "name"
  · rw [if_pos hn]
    exact fieldCovers_map (fieldCovers_once (covers_string F) "name" st.name) _
  rw [if_neg hn]
  by_cases hu : k = "url"
  · rw [if_pos hu]
    exact fieldCovers_map (fieldCovers_once (covers_option (covers_string F)) "url" st.url) _
  rw [if_neg hu]
  by_cases hc : k = "color"
  · rw [if_pos hc]
    exact fieldCovers_map (fieldCovers_once (covers_option (covers_string F)) "color" st.color) _
  rw [if_neg hc]
  exact fieldCovers_map (fieldCovers_keepExtra F st.extra k) _

theorem jobs_follows (F : Nat) :
    Follows (list (JobSummary.read F) F) (listOf summaryOf) F := by
  rw [← summaryOf_eq_fold]
  exact follows_list (summary_follows F)

theorem jobs_covers (F : Nat) : Covers (list (JobSummary.read F) F) F :=
  covers_list (summary_covers F)

/-- One field of the root object, decoded into the job list read before it: `jobs` at most once,
any other field passed over. -/
def rootStep (st : Option (List JobSummary)) (k : String) :
    Tree → Option (Option (List JobSummary)) :=
  if k = "jobs" then fun t => (if st.isSome then none else listOf summaryOf t).map some
  else fun _ => some st

theorem rootStep_jobs (st : Option (List JobSummary)) (t : Tree) :
    rootStep st "jobs" t = (if st.isSome then none else listOf summaryOf t).map some := rfl

theorem rootStep_other (st : Option (List JobSummary)) {k : String} (hk : k ≠ "jobs") (t : Tree) :
    rootStep st k t = some st := by
  simp only [rootStep, hk, if_false]

theorem foldlM_rootStep (fs : List (String × Tree)) (st : Option (List JobSummary)) :
    fs.foldlM (fun st f => rootStep st f.1 f.2) st =
      onceFrom st (listOf summaryOf) (valuesAt fs "jobs") := by
  induction fs generalizing st with
  | nil => rfl
  | cons f fs ih =>
    obtain ⟨k, t⟩ := f
    rw [List.foldlM_cons]
    by_cases hk : k = "jobs"
    · subst hk
      rw [rootStep_jobs, valuesAt_cons_self, onceFrom_cons]
      cases hs : st.isSome <;> cases hl : listOf summaryOf t <;> simp [ih]
    · rw [rootStep_other st hk, valuesAt_cons_of_ne hk]
      exact ih st

theorem rootItems_follow (F : Nat) :
    ItemsFollow (do
        match ← element (list (JobSummary.read F) F) true with
        | none => missing (.invalidLength 0 "struct RootDocument with 1 element")
        | some l => return l)
      (single (listOf summaryOf)) F := by
  intro m c ts c₁ c' hm hc hts hcl
  cases m with
  | zero => simp [treeItems, exec_failAhead] at hts
  | succ m =>
  rw [treeItems, exec_bind] at hts
  rcases hs : (itemStart true).exec c with ⟨_ | more, c₂⟩ <;> rw [hs] at hts
  · cases hts
  unfold element
  rw [exec_bind, exec_bind, exec_bind_of_ok hs]
  cases more with
  | false =>
    -- an empty array: the list is missing
    obtain ⟨rfl, rfl⟩ := exec_pure_ok_inv hts
    exact ⟨_, _, rfl⟩
  | true =>
    obtain ⟨t, c₃, ht, hts⟩ := exec_bind_ok_inv hts
    obtain ⟨ts', c₄, hts', hp⟩ := exec_bind_ok_inv hts
    obtain ⟨rfl, rfl⟩ := exec_pure_ok_inv hp
    have hjobs := jobs_follows F m c₂ t c₃ (by omega) ((keeps_itemStart true).within hs hc) ht
    simp only [if_true]
    cases hl : listOf summaryOf t with
    | none =>
      rw [hl] at hjobs
      obtain ⟨e, c₅, he⟩ := hjobs
      have hsingle : single (listOf summaryOf) (t :: ts') = none := by
        rcases ts' with _ | ⟨t', ts'⟩
        · exact hl
        · rfl
      rw [hsingle, exec_bind_of_error he]
      exact ⟨_, _, rfl⟩
    | some l =>
      rw [hl] at hjobs
      rw [exec_bind_of_ok hjobs]
      show Agrees ((leave >>= fun _ => closeArray >>= fun _ => pure l).exec c₃) _ c'
      rw [exec_bind_of_ok (exec_leave _)]
      cases m with
      | zero => simp [treeItems, exec_failAhead] at hts'
      | succ m =>
      rw [treeItems, exec_bind] at hts'
      rcases hs' : (itemStart false).exec c₃ with ⟨_ | more', c₅⟩ <;> rw [hs'] at hts'
      · cases hts'
      rcases itemStart_ok hs' with ⟨rfl, hb, rfl⟩ | ⟨-, h, -⟩ | ⟨rfl, -, hb, rfl, -⟩
      · -- the closing bracket follows the list
        obtain ⟨rfl, rfl⟩ := exec_pure_ok_inv hts'
        have hcl' : closeArray.exec c₃.leave = (.ok (), c') := by
          rw [← exec_closeArray_skipBlanks]
          exact hcl
        rw [exec_bind_of_ok hcl', show single (listOf summaryOf) [t] = some l from hl]
        rfl
      · cases h
      · -- a second item: the array does not close after the list
        obtain ⟨t', c₆, -, hts'⟩ := exec_bind_ok_inv hts'
        obtain ⟨ts'', c₇, -, hp⟩ := exec_bind_ok_inv hts'
        obtain ⟨rfl, rfl⟩ := exec_pure_ok_inv hp
        rcases hc₃ : closeArray.exec c₃.leave with ⟨_ | u, c₈⟩
        · rw [exec_bind_of_error hc₃]
          exact ⟨_, _, rfl⟩
        · obtain ⟨hb', -⟩ := closeArray_ok hc₃
          rw [show c₃.leave.skipBlanks.rest = c₃.skipBlanks.rest from rfl, hb] at hb'
          cases hb'

theorem rootEntry_other (F : Nat) (st : Option (List JobSummary)) {k : String} (hk : k ≠ "jobs") :
    (if k = "jobs" then (do return some (← once "jobs" st (list (JobSummary.read F) F)))
      else do colon; skip F; return st) = (colon >>= fun _ => skip F >>= fun _ => pure st) := by
  rw [if_neg hk]

theorem rootJobs_object (fs : List (String × Tree)) :
    rootJobs (.object fs) = (fs.foldlM (fun st f => rootStep st f.1 f.2) none).bind id := by
  rw [foldlM_rootStep, onceFrom_none, ← single_eq_optional]
  rfl

/-- The root document's reader decodes what the skimming reader reads: the job list of the root
document it stands for. -/
theorem jobList_follows_skim (F : Nat) {c c' : Cursor} {t : Tree} (hw : c.Within F)
    (h : (skim "jobs" F).exec c = (.ok t, c')) :
    Agrees ((readJobList F).exec c) (rootJobs t) c' := by
  cases F with
  | zero => simp [skim, exec_failAhead] at h
  | succ F =>
  rw [skim, exec_bind, exec_blank] at h
  cases hb : c.skipBlanks.rest.head? with
  | none => simp [hb, exec_failAhead] at h
  | some b =>
  simp only [hb] at h
  unfold readJobList struct
  rw [exec_bind, exec_blank, hb]
  dsimp only
  by_cases ho : b = 0x7B
  · -- an object: `jobs` is read, the other fields skipped
    subst ho
    rw [treeAt_object] at h
    obtain ⟨fs, c₁, rfl, hdep, hfs, hcl⟩ := nested_bind_ok_inv h
    rw [rootJobs_object]
    refine agrees_nested_close hdep (agrees_bind (entries_agree_skim
      (fun st => fieldFollows_map (fieldFollows_once (jobs_follows (F + 1)) "jobs" st) some)
      (fun st k hk => ⟨rootEntry_other (F + 1) st hk, rootStep_other st hk _⟩)
      F (F + 1) true _ fs c₁ none (by omega) (by omega) hw.skipBlanks.enter hfs)
      fun st _ => ?_) hcl
    cases st with
    | none => exact (fails_missing _).agrees _ _
    | some l => rfl
  by_cases ha : b = 0x5B
  · -- an array: the job list is its only item
    subst ha
    obtain ⟨ts, rfl, hag⟩ := agrees_array (rootItems_follow (F + 1)) (n := F) (by omega)
      hw.skipBlanks h
    exact hag
  · -- any other value is no root document
    have hnone : rootJobs t = none := by
      have := treeAt_startsWith h
      cases t with
      | object fs => exact absurd this ho
      | array ts => exact absurd this ha
      | _ => rfl
    rw [hnone]
    split
    · contradiction
    · rename_i heq
      exact absurd (Option.some.inj heq) ho
    · rename_i heq
      exact absurd (Option.some.inj heq) ha
    · exact (fails_wrongType _).agrees _ _

theorem skim_of_jobList (F : Nat) {c c' : Cursor} {l : List JobSummary}
    (hroom : 2 * c.rest.length < F) (h : (readJobList F).exec c = (.ok l, c')) :
    ∃ t, (skim "jobs" F).exec c = (.ok t, c') := by
  obtain ⟨F', rfl⟩ : ∃ F', F = F' + 1 := ⟨F - 1, by omega⟩
  unfold readJobList struct at h
  dsimp only at h
  have h := blank_ok_inv h
  split at h
  · exact absurd h (not_ok_of_fails (fails_failAhead _))
  · -- an object
    rename_i hb
    obtain ⟨hdep, c₁, hin, hcl⟩ := nested_ok_inv h
    obtain ⟨st, c₂, hen, hfin⟩ := exec_bind_ok_inv hin
    have hc₂ : c₂ = c₁ := by
      split at hfin
      · exact absurd hfin (not_ok_of_fails (fails_missing _))
      · exact (exec_pure_ok_inv hfin).2
    subst hc₂
    have hroom' : 2 * c.skipBlanks.enter.rest.length + 1 < F' := by
      have := Cursor.advance_length_of_head hb
      have := Cursor.skipBlanks_length c
      simp only [Cursor.enter_rest]
      omega
    obtain ⟨fs, hfs⟩ := @entries_covers_skim _ (F' + 1) _ "jobs"
      (fun st => fieldCovers_map (fieldCovers_once (jobs_covers (F' + 1)) "jobs" st) some)
      (fun st k hk => rootEntry_other (F' + 1) st hk) F' (F' + 1) true _ none st c₂ hroom'
      (by omega) (by omega) hen
    rw [exec_skim_succ_of_head hb, treeAt_object]
    exact ⟨_, exec_nested_bind Tree.object hdep hfs hcl⟩
  · -- an array holding the job list alone
    rename_i hb
    obtain ⟨hdep, c₁, hin, hcl⟩ := nested_ok_inv h
    obtain ⟨o, c₂, hel, hfin⟩ := exec_bind_ok_inv hin
    cases o with
    | none => exact absurd hfin (not_ok_of_fails (fails_missing _))
    | some l' =>
    obtain ⟨-, rfl⟩ := exec_pure_ok_inv hfin
    unfold element at hel
    obtain ⟨more, c₃, hs, hel⟩ := exec_bind_ok_inv hel
    cases more with
    | false => cases (exec_pure_ok_inv hel).1
    | true =>
    simp only [if_true] at hel
    obtain ⟨l'', c₄, hjobs, hp⟩ := exec_bind_ok_inv hel
    obtain ⟨-, rfl⟩ := exec_pure_ok_inv hp
    obtain ⟨-, -, hl₃⟩ := keeps_itemStart true _ _ _ hs
    have hroom' : 2 * c.skipBlanks.enter.rest.length + 1 < F' := by
      have := Cursor.advance_length_of_head hb
      have := Cursor.skipBlanks_length c
      simp only [Cursor.enter_rest]
      omega
    obtain ⟨F'', rfl⟩ : ∃ F'', F' = F'' + 1 := ⟨F' - 1, by omega⟩
    obtain ⟨t, ht⟩ := jobs_covers (F'' + 1 + 1) _ _ _ (by omega) hjobs
    -- after the list the array closes, so the tree reader finds no second item
    obtain ⟨hclose, -⟩ := closeArray_ok hcl
    have hclose : c₄.skipBlanks.rest.head? = some 0x5D := hclose
    have hitems : (treeItems (F'' + 1) true).exec c.skipBlanks.enter =
        (.ok [t], c₄.skipBlanks) := by
      rw [treeItems, exec_bind_of_ok hs]
      simp only [if_true]
      rw [exec_bind_of_ok (tree_of_room ht (by omega))]
      cases F'' with
      | zero => omega
      | succ F'' =>
      rw [exec_bind, treeItems, exec_bind_of_ok (itemStart_at_close hclose)]
      rfl
    have hcl' : closeArray.exec c₄.skipBlanks.leave = (.ok (), c') := by
      rw [Cursor.leave_skipBlanks, exec_closeArray_skipBlanks]
      exact hcl
    rw [exec_skim_succ_of_head hb, treeAt_array]
    exact ⟨_, exec_nested_bind Tree.array hdep hitems hcl'⟩
  · exact absurd h (not_ok_of_fails (fails_wrongType _))

theorem valuesAt_skimmedFields (key : String) (fs : List (String × Tree)) :
    valuesAt (skimmedFields key fs) key = valuesAt fs key := by
  induction fs with
  | nil => rfl
  | cons f fs ih =>
    obtain ⟨k, t⟩ := f
    by_cases hk : k = key
    · subst hk
      simp only [skimmedFields, List.map_cons, if_true] at ih ⊢
      rw [valuesAt_cons_self, valuesAt_cons_self, ih]
    · simp only [skimmedFields, List.map_cons, hk, if_false] at ih ⊢
      rw [valuesAt_cons_of_ne hk, valuesAt_cons_of_ne hk, ih]

theorem rootJobs_skimmed (t : Tree) : rootJobs (t.skimmed "jobs") = rootJobs t := by
  cases t with
  | object fs =>
    show single (listOf summaryOf) (valuesAt (skimmedFields "jobs" fs) "jobs") = _
    rw [valuesAt_skimmedFields]
    rfl
  | _ => rfl

/-- A whole text decodes as a job list exactly where skimming it for `jobs` reads a root document
with that job list. -/
theorem jobList_iff_skim (bytes : List UInt8) (l : List JobSummary) :
    decodeWith readJobList bytes = .ok l ↔
      ∃ t, decodeWith (skim "jobs") bytes = .ok t ∧ rootJobs t = some l := by
  have hw := Cursor.start_within bytes
  constructor
  · intro h
    obtain ⟨c', hr, hb⟩ := decodeWith_eq_ok_iff.1 h
    obtain ⟨t, ht⟩ := skim_of_jobList _ hw.fuel hr
    have hag := jobList_follows_skim _ hw ht
    refine ⟨t, decodeWith_eq_ok_iff.2 ⟨c', ht, hb⟩, ?_⟩
    cases hj : rootJobs t with
    | none =>
      rw [hj] at hag
      obtain ⟨e, c₁, he⟩ := hag
      rw [hr] at he
      cases he
    | some l' =>
      rw [hj] at hag
      have hag : (readJobList (fuelFor bytes.length)).exec (Cursor.start bytes) = (.ok l', c') := hag
      rw [hr] at hag
      simp only [Prod.mk.injEq, Except.ok.injEq, and_true] at hag
      rw [hag]
  · rintro ⟨t, ht, hj⟩
    obtain ⟨c', hs, hb⟩ := decodeWith_eq_ok_iff.1 ht
    have hag := jobList_follows_skim _ hw hs
    rw [hj] at hag
    exact decodeWith_eq_ok_iff.2 ⟨c', hag, hb⟩

/-- For a whole text that reads as a tree, the job list is the one of the root document the tree
stands for. -/
theorem jobList_of_tree {bytes : List UInt8} {t : Tree} (h : decodeWith tree bytes = .ok t)
    (l : List JobSummary) : decodeWith readJobList bytes = .ok l ↔ rootJobs t = some l := by
  obtain ⟨c', ht, hb⟩ := decodeWith_eq_ok_iff.1 h
  have hsd : decodeWith (skim "jobs") bytes = .ok (t.skimmed "jobs") :=
    decodeWith_eq_ok_iff.2 ⟨c', skim_of_tree ht (Cursor.start_within bytes), hb⟩
  rw [jobList_iff_skim, ← rootJobs_skimmed t]
  constructor
  · rintro ⟨t', ht', hj⟩
    rw [hsd] at ht'
    cases ht'
    exact hj
  · exact fun hj => ⟨_, hsd, hj⟩

end CiClient.Job

namespace CiClient.Client

open Service Job Http Json Json.Reader

variable {σ : Type}

/-- The job list operation on every response the transport returns: the job list of the root
document the body stands for, read with the fields of the root object other than `jobs` only
skipped; for a body that is a JSON text, of the document it is. Any other body is a `Decode`
error that names the call. -/
theorem job_list_from_body (c : Client) (tr : Transport σ) (s : σ) :
    c.getJobs.run tr s = tr.callThen (c.callOf .get Endpoint.root.path) s
        (fun resp s' => (.finished (c.decodeResponse readJobList Endpoint.root.path resp), s')) ∧
    ∀ resp : Response,
      (∀ l, c.decodeResponse readJobList Endpoint.root.path resp = .ok l ↔
        ∃ t, decodeWith (skim "jobs") resp.body = .ok t ∧ rootJobs t = some l) ∧
      (∀ t, decodeWith tree resp.body = .ok t → ∀ l,
        (c.decodeResponse readJobList Endpoint.root.path resp = .ok l ↔ rootJobs t = some l)) ∧
      (∀ e, c.decodeResponse readJobList Endpoint.root.path resp = .error e →
        ∃ msg, e = .decode resp.status .get c.service Endpoint.root.path
          (requestId resp.headers) (bodySnippet resp.body c.snippet) msg) := by
  refine ⟨by rw [getJobs]; exact run_getJson tr c _ _ s, fun resp => ?_⟩
  -- the decoding is the body's, and its failure is made a `Decode` error
  have hok : ∀ l, c.decodeResponse readJobList Endpoint.root.path resp = .ok l ↔
      decodeWith readJobList resp.body = .ok l := by
    intro l
    unfold decodeResponse
    cases decodeWith readJobList resp.body <;> simp
  refine ⟨fun l => (hok l).trans (jobList_iff_skim _ l),
    fun t ht l => (hok l).trans (jobList_of_tree ht l), fun e he => ?_⟩
  unfold decodeResponse at he
  cases hd : decodeWith readJobList resp.body with
  | ok v =>
    rw [hd] at he
    cases he
  | error je =>
    rw [hd] at he
    exact ⟨je.message, (Except.error.inj he).symm⟩

/-- A body that is an array, not an object, still gives a job list: the root document in its
form as a sequence. -/
theorem sequence_form_job_list :
    "[[\x7b\"name\":\"a\"\x7d]]".toList.head? = some '[' ∧
    ∃ l, ((ofService "jenkins").getJobs.run
        (scripted [⟨.get, "api/json", .respond ⟨⟨200⟩, HeaderMap.empty,
          "[[\x7b\"name\":\"a\"\x7d]]".toUTF8.toList⟩⟩]) ScriptState.empty).1 = .finished (.ok l) ∧
      l.map JobSummary.name = ["a"] := by
  refine ⟨by decide, ?_⟩
  have hread : ((ofService "jenkins").decodeResponse readJobList Endpoint.root.path
      ⟨⟨200⟩, HeaderMap.empty, "[[\x7b\"name\":\"a\"\x7d]]".toUTF8.toList⟩).toOption.map
        (List.map JobSummary.name) = some ["a"] := by
    decide +kernel
  have hsend : (scripted [⟨.get, "api/json", .respond ⟨⟨200⟩, HeaderMap.empty,
          "[[\x7b\"name\":\"a\"\x7d]]".toUTF8.toList⟩⟩]).send
        ((ofService "jenkins").callOf .get Endpoint.root.path) ScriptState.empty =
      (.answer (.ok ⟨⟨200⟩, HeaderMap.empty, "[[\x7b\"name\":\"a\"\x7d]]".toUTF8.toList⟩),
        ⟨[((.get, "api/json"), 1)], [(ofService "jenkins").callOf .get Endpoint.root.path], []⟩) := by
    rfl
  rw [getJobs, run_getJson]
  unfold Transport.callThen
  rw [hsend]
  dsimp only
  cases hd : (ofService "jenkins").decodeResponse readJobList Endpoint.root.path
      ⟨⟨200⟩, HeaderMap.empty, "[[\x7b\"name\":\"a\"\x7d]]".toUTF8.toList⟩ with
  | error e =>
    rw [hd] at hread
    cases hread
  | ok l =>
    rw [hd] at hread
    exact ⟨l, rfl, Option.some.inj hread⟩

end CiClient.Client
