import CiClient.Proofs.CompactReading
/-!
# Job documents read from a JSON value

The three documents are decoded here from a JSON value, whose objects hold each key once, in
place of the text: `BuildRef.ofValue`, `Job.ofValue` and `JobSummary.ofValue` look up the typed
fields and keep the others. Three facts tie them to the shapes and the written forms:

* a value decodes exactly when it has the document's shape (`IsBuildRef`, `IsJob`,
  `IsJobSummary`);
* the decoded document is written as the value with the document's edit applied
  (`buildRefEdit`, `jobEdit`, `summaryEdit`): an absent `builds` becomes `[]`, an absent
  `firstBuild` or `lastBuild` becomes `null`, and a `null` `url` or `color` of a build
  reference or job summary is left out;
* the edit changes nothing that decoding reads, so the edited value decodes to the same
  document.

Every statement is made key by key: fields sorted by key are determined by their lookups
(`eq_of_lookupField_eq`).
-/

namespace CiClient.Json

/-- The fields whose keys are not among `keys`. -/
def others (keys : List String) (fs : List (String × Value)) : List (String × Value) :=
  fs.filter fun f => f.1 ∉ keys

theorem lookupField_others (keys : List String) (k : String) (fs : List (String × Value)) :
    lookupField k (others keys fs) = if k ∈ keys then none else lookupField k fs := by
  induction fs with
  | nil => simp [others]
  | cons f fs ih =>
    obtain ⟨k', v⟩ := f
    by_cases hk' : k' ∈ keys
    · have hdrop : others keys ((k', v) :: fs) = others keys fs := by simp [others, hk']
      rw [hdrop, ih, lookupField_cons]
      by_cases hk : k = k'
      · subst hk
        simp [hk']
      · simp [hk]
    · have hkeep : others keys ((k', v) :: fs) = (k', v) :: others keys fs := by
        simp [others, hk']
      rw [hkeep, lookupField_cons, ih, lookupField_cons]
      by_cases hk : k = k'
      · subst hk
        simp [hk']
      · simp [hk]

theorem KeysSorted.others {fs : List (String × Value)} (h : KeysSorted fs) (keys : List String) :
    KeysSorted (others keys fs) :=
  List.Pairwise.filter _ h

namespace Value

variable {α : Type}

/-- `null` for none, or what `D` decodes. -/
def orNull (D : Value → Option α) : Value → Option (Option α)
  | .null => some none
  | v => (D v).map some

/-- An array, each item decoded by `D`. -/
def listOf (D : Value → Option α) : Value → Option (List α)
  | .array vs => vs.mapM D
  | _ => none

/-- A string value. -/
def IsString (v : Value) : Prop := ∃ s, v = .string s

/-- A field that is absent, `null`, or a value with property `P`. -/
def AbsentNullOr (P : Value → Prop) (o : Option Value) : Prop :=
  o = none ∨ o = some .null ∨ ∃ v, o = some v ∧ P v

theorem orNull_of_ne {D : Value → Option α} {v : Value} (h : v ≠ .null) :
    orNull D v = (D v).map some := by
  cases v <;> simp_all [orNull]

theorem mapM_isSome_iff {D : Value → Option α} :
    ∀ {vs : List Value}, (∃ as, vs.mapM D = some as) ↔ ∀ v ∈ vs, ∃ a, D v = some a
  | [] => by simp
  | v :: vs => by
    rw [List.mapM_cons, List.forall_mem_cons, ← mapM_isSome_iff]
    cases D v with
    | none => simp
    | some a => cases vs.mapM D <;> simp

/-- Items decoded one by one and mapped by `g` are the items mapped by `h` where the two agree. -/
theorem map_of_mapM_eq_some {γ : Type} {D : Value → Option α} {g : α → γ} {h : Value → γ} :
    ∀ {vs : List Value} {as : List α}, vs.mapM D = some as →
      (∀ v ∈ vs, ∀ a, D v = some a → g a = h v) → as.map g = vs.map h
  | [], as, hm, _ => by
    cases hm
    rfl
  | v :: vs, as, hm, hgh => by
    rw [List.mapM_cons] at hm
    cases hv : D v with
    | none => simp [hv] at hm
    | some a =>
      cases hvs : vs.mapM D with
      | none => simp [hv, hvs] at hm
      | some as' =>
        obtain rfl : a :: as' = as := by simpa [hv, hvs] using hm
        rw [List.map_cons, List.map_cons, hgh v List.mem_cons_self a hv,
          map_of_mapM_eq_some hvs fun w hw => hgh w (List.mem_cons_of_mem _ hw)]

/-- Items edited by `e` decode as the items do where `e` changes no item's decoding. -/
theorem mapM_map_of_eq {D : Value → Option α} {e : Value → Value} :
    ∀ {vs : List Value}, (∀ v ∈ vs, D (e v) = D v) → (vs.map e).mapM D = vs.mapM D
  | [], _ => rfl
  | v :: vs, h => by
    rw [List.map_cons, List.mapM_cons, List.mapM_cons, h v List.mem_cons_self,
      mapM_map_of_eq fun w hw => h w (List.mem_cons_of_mem _ hw)]

/-! ### Decoding fields -/

theorem bind_nat?_eq_some {o : Option Value} {n : Nat} : o.bind nat? = some n ↔ o = some (.nat n) := by
  rcases o with _ | v
  · simp
  · cases v with
    | number x => cases x <;> simp [nat?, Value.nat]
    | _ => simp [nat?, Value.nat]

theorem bind_str?_eq_some {o : Option Value} {s : String} :
    o.bind str? = some s ↔ o = some (.string s) := by
  rcases o with _ | v
  · simp
  · cases v <;> simp [str?]

theorem str?_exists (v : Value) : (∃ s, str? v = some s) ↔ IsString v := by
  cases v <;> simp [str?, IsString]

/-- A field decoded as absent, `null` or what `D` decodes exists exactly when it is absent, `null`
or has the property `D` decodes. -/
theorem elim_orNull_exists {D : Value → Option α} {P : Value → Prop} {o : Option Value}
    (hD : ∀ v, o = some v → ((∃ a, D v = some a) ↔ P v)) :
    (∃ a, o.elim (some none) (orNull D) = some a) ↔ AbsentNullOr P o := by
  rcases o with _ | v
  · simp [AbsentNullOr]
  · by_cases hv : v = .null
    · subst hv
      simp [AbsentNullOr, orNull]
    · simp only [Option.elim, orNull_of_ne hv, Option.map_eq_some_iff, AbsentNullOr,
        reduceCtorEq, Option.some.injEq, hv, false_or, exists_eq_left', ← hD v rfl]
      constructor
      · rintro ⟨_, a, ha, rfl⟩
        exact ⟨a, ha⟩
      · rintro ⟨a, ha⟩
        exact ⟨_, a, ha, rfl⟩

/-- A field that decodes as an optional string is, without `null`, that string. -/
theorem elim_orNull_str {o : Option Value} {u : Option String}
    (h : o.elim (some none) (orNull str?) = some u) :
    o.filter (fun x => !x.isNull) = u.map .string := by
  rcases o with _ | v
  · cases h
    rfl
  · cases v <;> simp [orNull, str?] at h <;> subst h <;> rfl

/-- Leaving out a `null` field changes nothing for a decoder that reads `null` as absent. -/
theorem elim_orNull_filter (D : Value → Option α) (o : Option Value) :
    (o.filter (fun x => !x.isNull)).elim (some none) (orNull D) = o.elim (some none) (orNull D) := by
  rcases o with _ | v
  · rfl
  · cases v <;> rfl

/-! ### Objects by their lookups -/

/-- An object whose fields are sorted by key, with `look` the value under each key. -/
def Fields (v : Value) (look : String → Option Value) : Prop :=
  ∃ fs, v = .object fs ∧ KeysSorted fs ∧ ∀ k, lookupField k fs = look k

section Fields

variable {v w : Value} {L L' : String → Option Value}

theorem fields_object {fs : List (String × Value)} (hs : KeysSorted fs) :
    (Value.object fs).Fields (lookupField · fs) :=
  ⟨fs, rfl, hs, fun _ => rfl⟩

/-- Two sorted objects with the same lookups are the same value. -/
theorem Fields.eq (hv : v.Fields L) (hw : w.Fields L) : v = w := by
  obtain ⟨fs, rfl, hfs, hl⟩ := hv
  obtain ⟨gs, rfl, hgs, hl'⟩ := hw
  rw [eq_of_lookupField_eq hfs hgs fun k => (hl k).trans (hl' k).symm]

theorem Fields.congr (hv : v.Fields L) (h : ∀ k, L k = L' k) : v.Fields L' := by
  obtain ⟨fs, rfl, hfs, hl⟩ := hv
  exact ⟨fs, rfl, hfs, fun k => (hl k).trans (h k)⟩

theorem Fields.insert (hv : v.Fields L) (k : String) (x : Value) :
    (v.insert k x).Fields fun k' => if k' = k then some x else L k' := by
  obtain ⟨fs, rfl, hfs, hl⟩ := hv
  exact ⟨_, rfl, hfs.insertField k x, fun k' => by rw [lookupField_insertField, hl]⟩

theorem Fields.withDefault (hv : v.Fields L) (k : String) (d : Value) :
    (Value.withDefault k d v).Fields fun k' => if k' = k then (L k).or (some d) else L k' := by
  obtain ⟨fs, rfl, hfs, hl⟩ := hv
  exact ⟨_, rfl, hfs.withDefault d, fun k' => by rw [lookupField_withDefault, hl, hl]⟩

theorem Fields.dropNull (hv : v.Fields L) (k : String) :
    (v.dropNull k).Fields fun k' => if k' = k then (L k).filter (fun x => !x.isNull) else L k' := by
  obtain ⟨fs, rfl, hfs, hl⟩ := hv
  exact ⟨_, rfl, hfs.dropNull, fun k' => by rw [lookupField_dropNull hfs, hl, hl]⟩

theorem Fields.modify (hv : v.Fields L) (k : String) (g : Value → Value) :
    (v.modify k g).Fields fun k' => if k' = k then (L k).map g else L k' := by
  obtain ⟨fs, rfl, hfs, hl⟩ := hv
  exact ⟨_, rfl, hfs.modify g, fun k' => by rw [lookupField_modify, hl, hl]⟩

end Fields

end Value

/-- Two sorted objects that agree outside `keys` have the same other fields. -/
theorem others_eq_of_lookupField {fs gs : List (String × Value)} (hfs : KeysSorted fs)
    (hgs : KeysSorted gs) {keys : List String}
    (h : ∀ k, k ∉ keys → lookupField k fs = lookupField k gs) : others keys fs = others keys gs :=
  eq_of_lookupField_eq (hfs.others keys) (hgs.others keys) fun k => by
    rw [lookupField_others, lookupField_others]
    split_ifs with hk
    · rfl
    · exact h k hk

end CiClient.Json

namespace CiClient.Json.Value

/-- A field of a canonical object is canonical one level down. -/
theorem canonical_of_lookupField {d : Nat} {fs : List (String × Value)} {k : String} {x : Value}
    (h : (Value.object fs).Canonical d) (hk : lookupField k fs = some x) : x.Canonical (d - 1) :=
  canonicalFields_iff.1 h.2.2 _ (mem_of_lookupField hk)

theorem canonicalItems_iff {d : Nat} :
    ∀ {vs : List Value}, CanonicalItems d vs ↔ ∀ v ∈ vs, v.Canonical d
  | [] => by simp [CanonicalItems]
  | v :: vs => by simp [CanonicalItems, canonicalItems_iff]

/-- A sorted object is canonical when each value it holds is, one level down. -/
theorem Fields.canonical {d : Nat} {v : Value} {L : String → Option Value} (h : v.Fields L)
    (hd : 1 < d) (hL : ∀ k x, L k = some x → x.Canonical (d - 1)) : v.Canonical d := by
  obtain ⟨fs, rfl, hs, hl⟩ := h
  refine ⟨hd, hs, canonicalFields_iff.2 fun f hf => hL f.1 f.2 ?_⟩
  rw [← hl]
  exact lookupField_of_mem hs hf

theorem Canonical.mapItems {d : Nat} {v : Value} (h : v.Canonical d) {g : Value → Value}
    (hg : ∀ x, x.Canonical (d - 1) → (g x).Canonical (d - 1)) : (v.mapItems g).Canonical d := by
  cases v with
  | array vs =>
    obtain ⟨hd, hvs⟩ := h
    refine ⟨hd, canonicalItems_iff.2 fun x hx => ?_⟩
    obtain ⟨y, hy, rfl⟩ := List.mem_map.1 hx
    exact hg y (canonicalItems_iff.1 hvs y hy)
  | _ => exact h

theorem Canonical.dropNull {d : Nat} {v : Value} (h : v.Canonical d) (k : String) :
    (v.dropNull k).Canonical d := by
  cases v with
  | object fs =>
    obtain ⟨hd, hs, hfs⟩ := h
    refine ⟨hd, hs.dropNull, canonicalFields_iff.2 fun f hf => ?_⟩
    exact canonicalFields_iff.1 hfs f (List.mem_of_mem_filter hf)
  | _ => exact h

end CiClient.Json.Value

namespace CiClient.Job

open CiClient.Json
open CiClient.Json.Value (orNull listOf IsString AbsentNullOr Fields)

/-! ### Build references -/

/-- The build reference a JSON value stands for: an object with a non-negative integer `number`
and a `url` that is absent, `null` or a string; its other fields are kept. -/
def BuildRef.ofValue : Value → Option BuildRef
  | .object fs => do
    let number ← (lookupField "number" fs).bind Value.nat?
    let url ← (lookupField "url" fs).elim (some none) (orNull Value.str?)
    return ⟨number, url, others ["number", "url"] fs⟩
  | _ => none

/-- A value with the shape of a build reference: an object whose `number` is a non-negative
integer below `2 ^ 64` and whose `url` is absent, `null` or a string. -/
def IsBuildRef : Value → Prop
  | .object fs => (∃ n < Nat.pow 2 64, lookupField "number" fs = some (.nat n)) ∧
      AbsentNullOr IsString (lookupField "url" fs)
  | _ => False

/-- How a build reference is written back: its value with a `null` `url` left out. -/
def buildRefEdit (v : Value) : Value := v.dropNull "url"

theorem BuildRef.ofValue_eq_some {v : Value} {b : BuildRef} :
    BuildRef.ofValue v = some b ↔ ∃ fs, v = .object fs ∧
      lookupField "number" fs = some (.nat b.number) ∧
      (lookupField "url" fs).elim (some none) (orNull Value.str?) = some b.url ∧
      b.extra = others ["number", "url"] fs := by
  constructor
  · intro h
    cases v with
    | object fs =>
      simp only [BuildRef.ofValue, Option.bind_eq_bind, Option.pure_def] at h
      obtain ⟨n, hn, h⟩ := Option.bind_eq_some_iff.1 h
      obtain ⟨u, hu, h⟩ := Option.bind_eq_some_iff.1 h
      cases h
      exact ⟨fs, rfl, Value.bind_nat?_eq_some.1 hn, hu, rfl⟩
    | _ => cases h
  · rintro ⟨fs, rfl, hn, hu, he⟩
    obtain ⟨n, url, extra⟩ := b
    dsimp only at hn hu he
    subst he
    simp only [BuildRef.ofValue, Option.bind_eq_bind, hn, Option.bind_some, Value.nat, Value.nat?,
      hu, Option.pure_def]

/-- A canonical value decodes as a build reference exactly when it has the shape of one. -/
theorem buildRef_ofValue_exists {d : Nat} {v : Value} (hv : v.Canonical d) :
    (∃ b, BuildRef.ofValue v = some b) ↔ IsBuildRef v := by
  constructor
  · rintro ⟨b, hb⟩
    obtain ⟨fs, rfl, hn, hu, -⟩ := BuildRef.ofValue_eq_some.1 hb
    -- the number is in range, as every number of a canonical value
    have hr : b.number < Nat.pow 2 64 := Value.canonical_of_lookupField hv hn
    exact ⟨⟨b.number, hr, hn⟩, (Value.elim_orNull_exists fun v _ => Value.str?_exists v).1 ⟨_, hu⟩⟩
  · cases v with
    | object fs =>
      rintro ⟨⟨n, -, hn⟩, hu⟩
      obtain ⟨u, hu⟩ := (Value.elim_orNull_exists fun v _ => Value.str?_exists v).2 hu
      exact ⟨⟨n, u, others _ fs⟩, BuildRef.ofValue_eq_some.2 ⟨fs, rfl, hn, hu, rfl⟩⟩
    | _ => exact False.elim

/-- The fields of a written build reference whose other fields hold no `url`. -/
theorem BuildRef.toValue_fields (b : BuildRef) (hs : KeysSorted b.extra)
    (hurl : lookupField "url" b.extra = none) :
    b.toValue.Fields fun k => if k = "url" then b.url.map .string
      else if k = "number" then some (.nat b.number) else lookupField k b.extra := by
  have hn := (Value.fields_object hs).insert "number" (.nat b.number)
  unfold BuildRef.toValue
  cases hu : b.url with
  | none =>
    refine hn.congr fun k => ?_
    by_cases hk : k = "url"
    · subst hk
      simp [hurl]
    · simp [hk]
  | some u =>
    refine (hn.insert "url" (.string u)).congr fun k => ?_
    by_cases hk : k = "url" <;> simp [hk]

/-- A decoded build reference is written as its value with a `null` `url` left out. -/
theorem buildRef_toValue {d : Nat} {v : Value} {b : BuildRef} (hv : v.Canonical d)
    (hb : BuildRef.ofValue v = some b) : b.toValue = buildRefEdit v := by
  obtain ⟨fs, rfl, hn, hu, he⟩ := BuildRef.ofValue_eq_some.1 hb
  have hs : KeysSorted fs := hv.2.1
  have hext : KeysSorted b.extra := he ▸ hs.others _
  have hurl : lookupField "url" b.extra = none := by
    rw [he, lookupField_others]
    simp
  refine (b.toValue_fields hext hurl).eq (((Value.fields_object hs).dropNull "url").congr
    fun k => ?_)
  -- key by key: `url` without `null`, `number` as read, any other key kept
  rw [he, lookupField_others, ← Value.elim_orNull_str hu]
  by_cases hk : k = "url"
  · simp [hk]
  by_cases hk' : k = "number"
  · subst hk'
    simp [hn]
  · simp [hk, hk']

/-- A build reference written back decodes to what its value decodes to. -/
theorem buildRef_ofValue_edit {d : Nat} {v : Value} (hv : v.Canonical d) :
    BuildRef.ofValue (buildRefEdit v) = BuildRef.ofValue v := by
  cases v with
  | object fs =>
    have hs : KeysSorted fs := hv.2.1
    have hother : others ["number", "url"] (fs.filter fun f => !(f.1 == "url" && f.2.isNull)) =
        others ["number", "url"] fs := by
      rw [others, others, List.filter_filter]
      refine List.filter_congr fun f _ => ?_
      by_cases hk : f.1 = "url" <;> simp [hk]
    simp only [buildRefEdit, Value.dropNull, BuildRef.ofValue, lookupField_dropNull hs, hother]
    simp [Value.elim_orNull_filter]
  | _ => rfl

/-! ### Jobs -/

/-- The job a JSON value stands for: an object whose `builds` is absent or an array of build
references and whose `firstBuild` and `lastBuild` are each absent, `null` or a build reference;
its other fields are kept. -/
def ofValue : Value → Option Job
  | .object fs => do
    let builds ← (lookupField "builds" fs).elim (some []) (listOf BuildRef.ofValue)
    let firstBuild ← (lookupField "firstBuild" fs).elim (some none) (orNull BuildRef.ofValue)
    let lastBuild ← (lookupField "lastBuild" fs).elim (some none) (orNull BuildRef.ofValue)
    return ⟨builds, firstBuild, lastBuild, others ["builds", "firstBuild", "lastBuild"] fs⟩
  | _ => none

/-- A value with the shape of a job: an object whose `builds` is absent or an array of values
with the shape of a build reference, and whose `firstBuild` and `lastBuild` are each absent,
`null` or with the shape of a build reference. -/
def IsJob : Value → Prop
  | .object fs =>
    (lookupField "builds" fs = none ∨
      ∃ vs, lookupField "builds" fs = some (.array vs) ∧ ∀ v ∈ vs, IsBuildRef v) ∧
    AbsentNullOr IsBuildRef (lookupField "firstBuild" fs) ∧
    AbsentNullOr IsBuildRef (lookupField "lastBuild" fs)
  | _ => False

/-- How a job is written back: an absent `builds` as `[]`, an absent `firstBuild` or `lastBuild`
as `null`, and each build reference as it is written back. -/
def jobEdit (v : Value) : Value :=
  (((Value.withDefault "lastBuild" .null (Value.withDefault "firstBuild" .null
      (Value.withDefault "builds" (.array []) v))).modify "builds"
    (Value.mapItems buildRefEdit)).modify "firstBuild" buildRefEdit).modify "lastBuild" buildRefEdit

theorem ofValue_eq_some {v : Value} {j : Job} :
    ofValue v = some j ↔ ∃ fs, v = .object fs ∧
      (lookupField "builds" fs).elim (some []) (listOf BuildRef.ofValue) = some j.builds ∧
      (lookupField "firstBuild" fs).elim (some none) (orNull BuildRef.ofValue) =
        some j.firstBuild ∧
      (lookupField "lastBuild" fs).elim (some none) (orNull BuildRef.ofValue) = some j.lastBuild ∧
      j.extra = others ["builds", "firstBuild", "lastBuild"] fs := by
  constructor
  · intro h
    cases v with
    | object fs =>
      simp only [ofValue, Option.bind_eq_bind, Option.pure_def] at h
      obtain ⟨bs, hb, h⟩ := Option.bind_eq_some_iff.1 h
      obtain ⟨fb, hf, h⟩ := Option.bind_eq_some_iff.1 h
      obtain ⟨lb, hl, h⟩ := Option.bind_eq_some_iff.1 h
      cases h
      exact ⟨fs, rfl, hb, hf, hl, rfl⟩
    | _ => cases h
  · rintro ⟨fs, rfl, hb, hf, hl, he⟩
    obtain ⟨builds, firstBuild, lastBuild, extra⟩ := j
    dsimp only at hb hf hl he
    subst he
    simp only [ofValue, Option.bind_eq_bind, hb, hf, hl, Option.bind_some, Option.pure_def]

/-- The `builds` field decodes exactly when it is absent or an array of values with the shape of
a build reference. -/
theorem buildRefs_exists {e : Nat} {o : Option Value} (hc : ∀ x, o = some x → x.Canonical e) :
    (∃ bs, o.elim (some []) (listOf BuildRef.ofValue) = some bs) ↔
      (o = none ∨ ∃ vs, o = some (.array vs) ∧ ∀ v ∈ vs, IsBuildRef v) := by
  rcases o with _ | x
  · simp
  · have hx := hc x rfl
    cases x with
    | array vs =>
      simp only [Option.elim, listOf, Value.mapM_isSome_iff, reduceCtorEq, false_or,
        Option.some.injEq, Value.array.injEq, exists_eq_left']
      exact forall₂_congr fun v hv => buildRef_ofValue_exists (Value.canonicalItems_iff.1 hx.2 v hv)
    | _ => simp [listOf]

theorem optionalBuildRef_exists {e : Nat} {o : Option Value}
    (hc : ∀ x, o = some x → x.Canonical e) :
    (∃ b, o.elim (some none) (orNull BuildRef.ofValue) = some b) ↔ AbsentNullOr IsBuildRef o :=
  Value.elim_orNull_exists fun v hv => buildRef_ofValue_exists (hc v hv)

/-- A canonical value decodes as a job exactly when it has the shape of one. -/
theorem job_ofValue_exists {d : Nat} {v : Value} (hv : v.Canonical d) :
    (∃ j, ofValue v = some j) ↔ IsJob v := by
  constructor
  · rintro ⟨j, hj⟩
    obtain ⟨fs, rfl, hb, hf, hl, -⟩ := ofValue_eq_some.1 hj
    have hc : ∀ k x, lookupField k fs = some x → x.Canonical (d - 1) :=
      fun _ _ => Value.canonical_of_lookupField hv
    exact ⟨(buildRefs_exists (hc "builds")).1 ⟨_, hb⟩,
      (optionalBuildRef_exists (hc "firstBuild")).1 ⟨_, hf⟩,
      (optionalBuildRef_exists (hc "lastBuild")).1 ⟨_, hl⟩⟩
  · cases v with
    | object fs =>
      rintro ⟨hb, hf, hl⟩
      have hc : ∀ k x, lookupField k fs = some x → x.Canonical (d - 1) :=
        fun _ _ => Value.canonical_of_lookupField hv
      obtain ⟨bs, hb⟩ := (buildRefs_exists (hc "builds")).2 hb
      obtain ⟨fb, hf⟩ := (optionalBuildRef_exists (hc "firstBuild")).2 hf
      obtain ⟨lb, hl⟩ := (optionalBuildRef_exists (hc "lastBuild")).2 hl
      exact ⟨⟨bs, fb, lb, others _ fs⟩, ofValue_eq_some.2 ⟨fs, rfl, hb, hf, hl, rfl⟩⟩
    | _ => exact False.elim

/-- The fields of a written job. -/
theorem toValue_fields (j : Job) (hs : KeysSorted j.extra) :
    j.toValue.Fields fun k => if k = "lastBuild" then some (optionalBuild j.lastBuild)
      else if k = "firstBuild" then some (optionalBuild j.firstBuild)
      else if k = "builds" then some (.array (j.builds.map BuildRef.toValue))
      else lookupField k j.extra :=
  (((Value.fields_object hs).insert _ _).insert _ _).insert _ _

/-- The fields of a job's value as it is written back. -/
theorem jobEdit_fields {fs : List (String × Value)} (hs : KeysSorted fs) :
    (jobEdit (.object fs)).Fields fun k =>
      if k = "lastBuild" then some (buildRefEdit ((lookupField "lastBuild" fs).getD .null))
      else if k = "firstBuild" then some (buildRefEdit ((lookupField "firstBuild" fs).getD .null))
      else if k = "builds" then
        some (Value.mapItems buildRefEdit ((lookupField "builds" fs).getD (.array [])))
      else lookupField k fs := by
  refine ((((((((Value.fields_object hs).withDefault "builds" (.array [])).withDefault "firstBuild"
    .null).withDefault "lastBuild" .null).modify "builds" _).modify "firstBuild" _).modify
    "lastBuild" _).congr fun k => ?_)
  by_cases hl : k = "lastBuild"
  · subst hl
    cases lookupField "lastBuild" fs <;> simp
  by_cases hf : k = "firstBuild"
  · subst hf
    cases lookupField "firstBuild" fs <;> simp
  by_cases hb : k = "builds"
  · subst hb
    cases lookupField "builds" fs <;> simp
  · simp [hl, hf, hb]

/-- An optional build reference is written as the field it was read from, with a `null` `url`
left out. -/
theorem optionalBuild_of_elim {e : Nat} {o : Option Value} {fb : Option BuildRef}
    (hc : ∀ x, o = some x → x.Canonical e)
    (h : o.elim (some none) (orNull BuildRef.ofValue) = some fb) :
    buildRefEdit (o.getD .null) = optionalBuild fb := by
  rcases o with _ | x
  · cases h
    rfl
  · by_cases hx : x = .null
    · subst hx
      cases h
      rfl
    · simp only [Option.elim, Value.orNull_of_ne hx, Option.map_eq_some_iff] at h
      obtain ⟨b, hb, rfl⟩ := h
      exact (buildRef_toValue (hc x rfl) hb).symm

/-- The build references of a job are written as the array they were read from, each with a
`null` `url` left out. -/
theorem buildRefs_of_elim {e : Nat} {o : Option Value} {bs : List BuildRef}
    (hc : ∀ x, o = some x → x.Canonical e)
    (h : o.elim (some []) (listOf BuildRef.ofValue) = some bs) :
    Value.mapItems buildRefEdit (o.getD (.array [])) = .array (bs.map BuildRef.toValue) := by
  rcases o with _ | x
  · cases h
    rfl
  · have hx := hc x rfl
    cases x with
    | array vs =>
      simp only [Option.elim, listOf] at h
      simp only [Option.getD, Value.mapItems]
      rw [Value.map_of_mapM_eq_some h fun v hv b hb =>
        buildRef_toValue (Value.canonicalItems_iff.1 hx.2 v hv) hb]
    | _ => cases h

/-- A decoded job is written as its value with `builds`, `firstBuild` and `lastBuild` filled in
where absent and each build reference written back. -/
theorem job_toValue {d : Nat} {v : Value} {j : Job} (hv : v.Canonical d)
    (hj : ofValue v = some j) : j.toValue = jobEdit v := by
  obtain ⟨fs, rfl, hb, hf, hl, he⟩ := ofValue_eq_some.1 hj
  have hs : KeysSorted fs := hv.2.1
  have hc : ∀ k x, lookupField k fs = some x → x.Canonical (d - 1) :=
    fun _ _ => Value.canonical_of_lookupField hv
  refine (j.toValue_fields (he ▸ hs.others _)).eq ((jobEdit_fields hs).congr fun k => ?_)
  -- key by key: the build references as they are written back, any other key kept
  by_cases hkl : k = "lastBuild"
  · simp only [hkl, if_true, optionalBuild_of_elim (hc "lastBuild") hl]
  by_cases hkf : k = "firstBuild"
  · simp only [hkf, if_true, optionalBuild_of_elim (hc "firstBuild") hf]
    rfl
  by_cases hkb : k = "builds"
  · simp only [hkb, if_true, buildRefs_of_elim (hc "builds") hb]
    rfl
  · simp only [hkl, hkf, hkb, if_false, he, lookupField_others]
    simp [hkl, hkf, hkb]

/-- The `builds` field as it is written back decodes as it did. -/
theorem elim_buildRefs_edit {e : Nat} {o : Option Value} (hc : ∀ x, o = some x → x.Canonical e) :
    (some (Value.mapItems buildRefEdit (o.getD (.array [])))).elim (some [])
        (listOf BuildRef.ofValue) = o.elim (some []) (listOf BuildRef.ofValue) := by
  rcases o with _ | x
  · rfl
  · have hx := hc x rfl
    cases x with
    | array vs =>
      simp only [Option.elim, Option.getD, Value.mapItems, listOf]
      exact Value.mapM_map_of_eq fun v hv =>
        buildRef_ofValue_edit (Value.canonicalItems_iff.1 hx.2 v hv)
    | _ => rfl

/-- An optional build reference as it is written back decodes as it did. -/
theorem elim_optionalBuild_edit {e : Nat} {o : Option Value}
    (hc : ∀ x, o = some x → x.Canonical e) :
    (some (buildRefEdit (o.getD .null))).elim (some none) (orNull BuildRef.ofValue) =
      o.elim (some none) (orNull BuildRef.ofValue) := by
  rcases o with _ | x
  · rfl
  · cases x with
    | null => rfl
    | object fs =>
      simp only [Option.elim, Option.getD]
      rw [Value.orNull_of_ne (by simp [buildRefEdit, Value.dropNull]),
        Value.orNull_of_ne (by simp), buildRef_ofValue_edit (hc _ rfl)]
    | _ => rfl

/-- A job written back decodes to what its value decodes to. -/
theorem job_ofValue_edit {d : Nat} {v : Value} (hv : v.Canonical d) :
    ofValue (jobEdit v) = ofValue v := by
  cases v with
  | object fs =>
    have hs : KeysSorted fs := hv.2.1
    have hc : ∀ k x, lookupField k fs = some x → x.Canonical (d - 1) :=
      fun _ _ => Value.canonical_of_lookupField hv
    obtain ⟨gs, hgs, hsg, hl⟩ := jobEdit_fields hs
    have hother : others ["builds", "firstBuild", "lastBuild"] gs =
        others ["builds", "firstBuild", "lastBuild"] fs :=
      others_eq_of_lookupField hsg hs fun k hk => by
        simp only [List.mem_cons, List.not_mem_nil, or_false, not_or] at hk
        simp only [hl, hk.1, hk.2.1, hk.2.2, if_false]
    rw [hgs]
    simp only [ofValue, hl, hother, if_true]
    simp only [show ("firstBuild" = "lastBuild") = False by decide,
      show ("builds" = "lastBuild") = False by decide,
      show ("builds" = "firstBuild") = False by decide, if_false]
    rw [elim_buildRefs_edit (hc "builds"), elim_optionalBuild_edit (hc "firstBuild"),
      elim_optionalBuild_edit (hc "lastBuild")]
  | _ => rfl

/-- A job's value as it is written back is canonical where the value is, with room for the
array of an absent `builds`. -/
theorem canonical_jobEdit {d : Nat} {v : Value} (hv : v.Canonical d) (hd : 2 < d) :
    (jobEdit v).Canonical d := by
  cases v with
  | object fs =>
    have hc : ∀ k x, lookupField k fs = some x → x.Canonical (d - 1) :=
      fun _ _ => Value.canonical_of_lookupField hv
    -- a field read, or its default where absent, is canonical one level down
    have hget : ∀ k y, y.Canonical (d - 1) → ((lookupField k fs).getD y).Canonical (d - 1) :=
      fun k y hy => by
        cases hk : lookupField k fs with
        | none => exact hy
        | some x => exact hc k x hk
    refine (jobEdit_fields hv.2.1).canonical hv.1 fun k x hx => ?_
    by_cases hkl : k = "lastBuild"
    · subst hkl
      have hx : buildRefEdit ((lookupField "lastBuild" fs).getD .null) = x := by simpa using hx
      exact hx ▸ (hget "lastBuild" .null trivial).dropNull "url"
    by_cases hkf : k = "firstBuild"
    · subst hkf
      have hx : buildRefEdit ((lookupField "firstBuild" fs).getD .null) = x := by simpa using hx
      exact hx ▸ (hget "firstBuild" .null trivial).dropNull "url"
    by_cases hkb : k = "builds"
    · subst hkb
      have hx : Value.mapItems buildRefEdit ((lookupField "builds" fs).getD (.array [])) = x := by
        simpa using hx
      have hempty : (Value.array []).Canonical (d - 1) := ⟨by omega, trivial⟩
      exact hx ▸ (hget "builds" _ hempty).mapItems fun y hy => hy.dropNull "url"
    · simp only [hkl, hkf, hkb, if_false] at hx
      exact hc k x hx
  | _ => exact hv

/-! ### Job summaries -/

/-- The job summary a JSON value stands for: an object with a string `name` and a `url` and a
`color` that are each absent, `null` or a string; its other fields are kept. -/
def JobSummary.ofValue : Value → Option JobSummary
  | .object fs => do
    let name ← (lookupField "name" fs).bind Value.str?
    let url ← (lookupField "url" fs).elim (some none) (orNull Value.str?)
    let color ← (lookupField "color" fs).elim (some none) (orNull Value.str?)
    return ⟨name, url, color, others ["name", "url", "color"] fs⟩
  | _ => none

/-- A value with the shape of a job summary: an object whose `name` is a string and whose `url`
and `color` are each absent, `null` or a string. -/
def IsJobSummary : Value → Prop
  | .object fs => (∃ s, lookupField "name" fs = some (.string s)) ∧
      AbsentNullOr IsString (lookupField "url" fs) ∧ AbsentNullOr IsString (lookupField "color" fs)
  | _ => False

/-- How a job summary is written back: its value with a `null` `url` or `color` left out. -/
def summaryEdit (v : Value) : Value := (v.dropNull "url").dropNull "color"

theorem JobSummary.ofValue_eq_some {v : Value} {s : JobSummary} :
    JobSummary.ofValue v = some s ↔ ∃ fs, v = .object fs ∧
      lookupField "name" fs = some (.string s.name) ∧
      (lookupField "url" fs).elim (some none) (orNull Value.str?) = some s.url ∧
      (lookupField "color" fs).elim (some none) (orNull Value.str?) = some s.color ∧
      s.extra = others ["name", "url", "color"] fs := by
  constructor
  · intro h
    cases v with
    | object fs =>
      simp only [JobSummary.ofValue, Option.bind_eq_bind, Option.pure_def] at h
      obtain ⟨n, hn, h⟩ := Option.bind_eq_some_iff.1 h
      obtain ⟨u, hu, h⟩ := Option.bind_eq_some_iff.1 h
      obtain ⟨c, hc, h⟩ := Option.bind_eq_some_iff.1 h
      cases h
      exact ⟨fs, rfl, Value.bind_str?_eq_some.1 hn, hu, hc, rfl⟩
    | _ => cases h
  · rintro ⟨fs, rfl, hn, hu, hc, he⟩
    obtain ⟨name, url, color, extra⟩ := s
    dsimp only at hn hu hc he
    subst he
    simp only [JobSummary.ofValue, Option.bind_eq_bind, hn, Option.bind_some, Value.str?, hu, hc,
      Option.pure_def]

/-- A value decodes as a job summary exactly when it has the shape of one. -/
theorem summary_ofValue_exists {v : Value} :
    (∃ s, JobSummary.ofValue v = some s) ↔ IsJobSummary v := by
  have hstr : ∀ o : Option Value,
      (∃ a, o.elim (some none) (orNull Value.str?) = some a) ↔ AbsentNullOr IsString o :=
    fun _ => Value.elim_orNull_exists fun v _ => Value.str?_exists v
  constructor
  · rintro ⟨s, hs⟩
    obtain ⟨fs, rfl, hn, hu, hc, -⟩ := JobSummary.ofValue_eq_some.1 hs
    exact ⟨⟨_, hn⟩, (hstr _).1 ⟨_, hu⟩, (hstr _).1 ⟨_, hc⟩⟩
  · cases v with
    | object fs =>
      rintro ⟨⟨n, hn⟩, hu, hc⟩
      obtain ⟨u, hu⟩ := (hstr _).2 hu
      obtain ⟨c, hc⟩ := (hstr _).2 hc
      exact ⟨⟨n, u, c, others _ fs⟩, JobSummary.ofValue_eq_some.2 ⟨fs, rfl, hn, hu, hc, rfl⟩⟩
    | _ => exact False.elim

/-- The fields of a written job summary whose other fields hold no `url` or `color`. -/
theorem JobSummary.toValue_fields (s : JobSummary) (hs : KeysSorted s.extra)
    (hurl : lookupField "url" s.extra = none) (hcolor : lookupField "color" s.extra = none) :
    s.toValue.Fields fun k => if k = "color" then s.color.map .string
      else if k = "url" then s.url.map .string
      else if k = "name" then some (.string s.name) else lookupField k s.extra := by
  have hn := (Value.fields_object hs).insert "name" (.string s.name)
  unfold JobSummary.toValue
  -- `url` and `color` are added only when present
  cases hu : s.url <;> cases hc : s.color
  · exact hn.congr fun k => by
      by_cases hkc : k = "color" <;> by_cases hku : k = "url" <;> simp_all
  · exact (hn.insert _ _).congr fun k => by
      by_cases hkc : k = "color" <;> by_cases hku : k = "url" <;> simp_all
  · exact (hn.insert _ _).congr fun k => by
      by_cases hkc : k = "color" <;> by_cases hku : k = "url" <;> simp_all
  · exact ((hn.insert _ _).insert _ _).congr fun k => by
      by_cases hkc : k = "color" <;> by_cases hku : k = "url" <;> simp_all

/-- A decoded job summary is written as its value with a `null` `url` or `color` left out. -/
theorem summary_toValue {d : Nat} {v : Value} {s : JobSummary} (hv : v.Canonical d)
    (hsv : JobSummary.ofValue v = some s) : s.toValue = summaryEdit v := by
  obtain ⟨fs, rfl, hn, hu, hc, he⟩ := JobSummary.ofValue_eq_some.1 hsv
  have hs : KeysSorted fs := hv.2.1
  have hno : ∀ k ∈ ["name", "url", "color"], lookupField k s.extra = none := fun k hk => by
    rw [he, lookupField_others, if_pos hk]
  refine (s.toValue_fields (he ▸ hs.others _) (hno "url" (by simp)) (hno "color" (by simp))).eq
    ((((Value.fields_object hs).dropNull "url").dropNull "color").congr fun k => ?_)
  -- key by key: `url` and `color` without `null`, `name` as read, any other key kept
  rw [he, lookupField_others, ← Value.elim_orNull_str hu, ← Value.elim_orNull_str hc]
  by_cases hkc : k = "color"
  · simp [hkc]
  by_cases hku : k = "url"
  · simp [hku]
  by_cases hkn : k = "name"
  · subst hkn
    simp [hn]
  · simp [hkc, hku, hkn]

/-- A job summary written back decodes to what its value decodes to. -/
theorem summary_ofValue_edit {d : Nat} {v : Value} (hv : v.Canonical d) :
    JobSummary.ofValue (summaryEdit v) = JobSummary.ofValue v := by
  cases v with
  | object fs =>
    have hs : KeysSorted fs := hv.2.1
    have hother : others ["name", "url", "color"]
        ((fs.filter fun f => !(f.1 == "url" && f.2.isNull)).filter
          fun f => !(f.1 == "color" && f.2.isNull)) = others ["name", "url", "color"] fs := by
      rw [others, others, List.filter_filter, List.filter_filter]
      refine List.filter_congr fun f _ => ?_
      by_cases hku : f.1 = "url"
      · simp [hku]
      by_cases hkc : f.1 = "color"
      · simp [hkc]
      · simp [hku, hkc, beq_eq_false_iff_ne.2 hku, beq_eq_false_iff_ne.2 hkc]
    simp only [summaryEdit, Value.dropNull, JobSummary.ofValue, lookupField_dropNull hs.dropNull,
      lookupField_dropNull hs, hother]
    simp [Value.elim_orNull_filter]
  | _ => rfl

theorem canonical_summaryEdit {d : Nat} {v : Value} (hv : v.Canonical d) :
    (summaryEdit v).Canonical d :=
  (hv.dropNull "url").dropNull "color"

end CiClient.Job
