import Mathlib.Data.List.Sort
import Mathlib.Data.String.Basic
import Mathlib.Data.Prod.Lex

/-!
# Doc/VersionedNotifications — the table of versioned notifications

`VersionedNotificationDirective._collect_notifications` walks the object registry.  For every
registered notification class — a subclass of `NotificationBase` other than the base itself — it
records one row `(class name, payload class name, sample file)` per sample file the class
declares, in a dict keyed by the sample file.  A sample file met a second time raises
`ValueError('Duplicated usage of %s sample file detected')`; otherwise the rows come back sorted.

On a registry whose notification classes all name a registered payload class
(`Registry.PayloadsRegistered`), the two loops compute exactly the declarative table
`Registry.rows`:

* `collectNotifications_spec` — the directive succeeds exactly when no sample file is declared
  twice, with the declared rows sorted as Python sorts tuples of strings; when it fails, its
  message names a sample file declared twice;
* `collectNotifications_table` — so a table it returns is sorted and lists every declared row,
  one row per sample file.

The registry, `NovaObjectRegistry.obj_classes()` after the notification packages are imported and
registered, is the input: a dict from object names to their classes, newest first.
-/

namespace NovaValidation

/-! ## The registry -/

/-- What `_collect_notifications` reads of a registered class. -/
structure ObjClass where
  /-- `cls.__name__`. -/
  name : String
  /-- `issubclass(cls, NotificationBase) and cls != NotificationBase`. -/
  isNotification : Bool
  /-- `cls.fields['payload'].objname`, when the class has a `payload` field. -/
  payloadField : Option String
  /-- `cls.samples`. -/
  samples : List String

/-- `NovaObjectRegistry.obj_classes()`: a dict, so its names are distinct. -/
structure Registry where
  entries : List (String × List ObjClass)
  nodup : (entries.map Prod.fst).Nodup

/-- A row of the table: `(cls.__name__, payload_cls.__name__, sample)`. -/
abbrev Row := String × String × String

/-- The sample file of a row, which is also its key in `notifications`. -/
def Row.sample (r : Row) : String := r.2.2

/-- Why `_collect_notifications` stops: a dict key that is missing, a class list that is empty,
or the `ValueError` of a sample file met twice. -/
inductive CollectError
  | keyError (key : String)
  | indexError
  | valueError (message : String)
  deriving DecidableEq, Repr

/-- `'Duplicated usage of %s sample file detected' % sample`. -/
def duplicatedMessage (sample : String) : String :=
  "Duplicated usage of " ++ sample ++ " sample file detected"

/-! ## The directive, as the source runs it -/

/-- `ovos[name][0]`. -/
def registryFirst (ovos : List (String × List ObjClass)) (name : String) :
    Except CollectError ObjClass :=
  match ovos.lookup name with
  | none => .error (.keyError name)
  | some [] => .error .indexError
  | some (cls :: _) => .ok cls

/-- `for sample in cls.samples:` over the dict `notifications`, kept as its values: a sample
already a key raises, any other adds its row. -/
def collectSamples (clsName payloadName : String) :
    List String → List Row → Except CollectError (List Row)
  | [], notifications => .ok notifications
  | sample :: samples, notifications =>
    if sample ∈ notifications.map Row.sample then
      .error (.valueError (duplicatedMessage sample))
    else collectSamples clsName payloadName samples (notifications ++ [(clsName, payloadName, sample)])

/-- `for name, cls in ovos.items():` — the newest class of each entry; a notification class adds
the rows of its samples, with its payload class read from `ovos`. -/
def collectClasses (ovos : List (String × List ObjClass)) :
    List (String × List ObjClass) → List Row → Except CollectError (List Row)
  | [], notifications => .ok notifications
  | (_, clss) :: rest, notifications => do
    let cls ← match clss with
      | [] => .error .indexError
      | cls :: _ => .ok cls
    if cls.isNotification then
      let payloadName ← match cls.payloadField with
        | none => .error (.keyError "payload")
        | some p => .ok p
      let payloadCls ← registryFirst ovos payloadName
      let notifications ← collectSamples cls.name payloadCls.name cls.samples notifications
      collectClasses ovos rest notifications
    else collectClasses ovos rest notifications

/-- Python's order on tuples of strings: lexicographic, strings by code point. -/
def rowLe (a b : Row) : Bool := decide (toLex (a.1, toLex a.2) ≤ toLex (b.1, toLex b.2))

/-- `_collect_notifications`: the loops from an empty dict, then `sorted(notifications.values())`. -/
def collectNotifications (reg : Registry) : Except CollectError (List Row) := do
  let notifications ← collectClasses reg.entries reg.entries []
  return notifications.mergeSort rowLe

/-! ## The declared table -/

/-- An entry the loop reads without a `KeyError` or an `IndexError`: its class list is non-empty,
and its newest class, when it is a notification, has a `payload` field naming an entry of `ovos`
with a non-empty class list. -/
def EntryOk (ovos : List (String × List ObjClass)) (e : String × List ObjClass) : Prop :=
  ∃ cls clss, e.2 = cls :: clss ∧ (cls.isNotification = true →
    ∃ p pc pcs, cls.payloadField = some p ∧ ovos.lookup p = some (pc :: pcs))

/-- The registry's notification classes all name a registered payload class. -/
def Registry.PayloadsRegistered (reg : Registry) : Prop := ∀ e ∈ reg.entries, EntryOk reg.entries e

/-- The name of a notification class's payload class, on a registry where it is registered. -/
def payloadName (ovos : List (String × List ObjClass)) (cls : ObjClass) : String :=
  match cls.payloadField.bind (ovos.lookup ·) with
  | some (pc :: _) => pc.name
  | _ => ""

/-- The rows an entry declares: one per sample of its newest class, if that is a notification. -/
def entryRows (ovos : List (String × List ObjClass)) (e : String × List ObjClass) : List Row :=
  match e.2 with
  | cls :: _ => if cls.isNotification then cls.samples.map (cls.name, payloadName ovos cls, ·) else []
  | [] => []

/-- **The declared table**: the rows of every entry, in registry order. -/
def Registry.rows (reg : Registry) : List Row := reg.entries.flatMap (entryRows reg.entries)

/-! ## The loops compute the table -/

section Loops

variable {c p : String}

theorem count_ge_two_of_mem {s : String} {l m : List String} (hs : s ∈ l) :
    2 ≤ (l ++ s :: m).count s := by
  rw [List.count_append, List.count_cons_self]
  have := List.count_pos_iff.2 hs
  omega

theorem not_nodup_of_count {s : String} {l m : List String} (h : 2 ≤ l.count s) (hlm : l.Sublist m) :
    ¬ m.Nodup := fun hnd =>
  absurd (List.nodup_iff_count_le_one.1 hnd s) (by have := hlm.count_le s; omega)

/-- **The inner loop**, from a dict without a repeated key: it succeeds exactly when the samples
repeat neither each other nor a key already there, and then adds their rows in order. -/
theorem collectSamples_ok : ∀ {samples : List String} {acc out : List Row},
    (acc.map Row.sample).Nodup →
    (collectSamples c p samples acc = .ok out ↔
      (acc.map Row.sample ++ samples).Nodup ∧ out = acc ++ samples.map (c, p, ·))
  | [], acc, out, h => by simp [collectSamples, h, eq_comm]
  | s :: ss, acc, out, h => by
    unfold collectSamples
    split_ifs with hs
    · simp only [reduceCtorEq, false_iff, not_and]
      exact fun hnd => absurd hnd (not_nodup_of_count (count_ge_two_of_mem hs) (List.Sublist.refl _))
    · have h' : ((acc ++ [(c, p, s)]).map Row.sample).Nodup := by
        rw [List.map_append, List.map_singleton, ← List.concat_eq_append]
        exact h.concat hs
      rw [collectSamples_ok h']
      simp [Row.sample, List.append_assoc]

/-- What the inner loop returns, when it returns: the rows of the samples, added in order. -/
theorem collectSamples_eq_of_ok : ∀ {samples : List String} {acc out : List Row},
    collectSamples c p samples acc = .ok out → out = acc ++ samples.map (c, p, ·)
  | [], _, _, h => by cases h; simp
  | s :: ss, acc, out, h => by
    unfold collectSamples at h
    split_ifs at h
    rw [collectSamples_eq_of_ok h]
    simp

/-- When the inner loop fails, its message names a sample that occurs twice among the keys and
the samples. -/
theorem collectSamples_error : ∀ {samples : List String} {acc : List Row} {e : CollectError},
    collectSamples c p samples acc = .error e →
    ∃ s, e = .valueError (duplicatedMessage s) ∧ 2 ≤ (acc.map Row.sample ++ samples).count s
  | [], _, _, h => by cases h
  | s :: ss, acc, e, h => by
    unfold collectSamples at h
    split_ifs at h with hs
    · cases h
      exact ⟨s, rfl, count_ge_two_of_mem hs⟩
    · obtain ⟨t, rfl, ht⟩ := collectSamples_error h
      exact ⟨t, rfl, by simpa [Row.sample, List.append_assoc] using ht⟩

variable {ovos : List (String × List ObjClass)}

/-- The samples an entry's newest class contributes: its own if it is a notification, none
otherwise. -/
def notificationSamples (cls : ObjClass) : List String :=
  if cls.isNotification then cls.samples else []

theorem entryRows_cons (n : String) (cls : ObjClass) (clss : List ObjClass) :
    entryRows ovos (n, cls :: clss) =
      (notificationSamples cls).map (cls.name, payloadName ovos cls, ·) := by
  cases h : cls.isNotification <;> simp [entryRows, notificationSamples, h]

/-- **One entry of the outer loop** reads without error when it is `EntryOk`, and runs the inner
loop on the samples its newest class contributes. -/
theorem collectClasses_cons {n : String} {cls : ObjClass} {clss : List ObjClass}
    {rest : List (String × List ObjClass)} {acc : List Row}
    (hpay : cls.isNotification = true →
      ∃ p pc pcs, cls.payloadField = some p ∧ ovos.lookup p = some (pc :: pcs)) :
    collectClasses ovos ((n, cls :: clss) :: rest) acc =
      collectSamples cls.name (payloadName ovos cls) (notificationSamples cls) acc >>=
        collectClasses ovos rest := by
  cases hn : cls.isNotification
  · simp [collectClasses, notificationSamples, hn, collectSamples, bind, Except.bind]
  · obtain ⟨p, pc, pcs, hp, hl⟩ := hpay hn
    have hpn : payloadName ovos cls = pc.name := by simp [payloadName, hp, hl]
    simp [collectClasses, notificationSamples, hn, hp, registryFirst, hl, hpn, bind, Except.bind]

theorem map_sample_rows (c p : String) (ss : List String) :
    (ss.map (c, p, ·)).map Row.sample = ss := by
  simp [Function.comp_def, Row.sample]

/-- **The outer loop**, from a dict without a repeated key, over entries it reads without error:
it succeeds exactly when the entries' rows repeat neither each other's samples nor a key already
there, and then adds those rows in registry order. -/
theorem collectClasses_ok : ∀ {entries : List (String × List ObjClass)} {acc out : List Row},
    (∀ e ∈ entries, EntryOk ovos e) → (acc.map Row.sample).Nodup →
    (collectClasses ovos entries acc = .ok out ↔
      (acc.map Row.sample ++ (entries.flatMap (entryRows ovos)).map Row.sample).Nodup ∧
        out = acc ++ entries.flatMap (entryRows ovos))
  | [], acc, out, _, h => by simp [collectClasses, h, eq_comm]
  | (n, clss₀) :: rest, acc, out, hwf, h => by
    obtain ⟨cls, clss, hc, hpay⟩ := hwf _ (List.mem_cons_self _ _)
    obtain rfl : clss₀ = cls :: clss := hc
    rw [collectClasses_cons hpay, List.flatMap_cons, entryRows_cons, List.map_append,
      map_sample_rows, ← List.append_assoc]
    cases hs : collectSamples cls.name (payloadName ovos cls) (notificationSamples cls) acc with
    | error err =>
      obtain ⟨s, -, hcount⟩ := collectSamples_error hs
      simp only [bind, Except.bind, reduceCtorEq, false_iff, not_and]
      exact fun hnd => absurd hnd (not_nodup_of_count hcount (List.sublist_append_left _ _))
    | ok acc' =>
      obtain ⟨hnd, rfl⟩ := (collectSamples_ok h).1 hs
      have hnd' : ((acc ++ (notificationSamples cls).map (cls.name, payloadName ovos cls, ·)).map
          Row.sample).Nodup := by rwa [List.map_append, map_sample_rows]
      simp only [bind, Except.bind]
      rw [collectClasses_ok (fun e he => hwf e (List.mem_cons_of_mem _ he)) hnd', List.map_append,
        map_sample_rows]
      simp only [List.append_assoc]

/-- When the outer loop fails on entries it reads without error, its message names a sample that
occurs twice among the keys and the entries' rows. -/
theorem collectClasses_error : ∀ {entries : List (String × List ObjClass)} {acc : List Row}
    {e : CollectError}, (∀ e ∈ entries, EntryOk ovos e) → collectClasses ovos entries acc = .error e →
    ∃ s, e = .valueError (duplicatedMessage s) ∧
      2 ≤ (acc.map Row.sample ++ (entries.flatMap (entryRows ovos)).map Row.sample).count s
  | [], _, _, _, h => by cases h
  | (n, clss₀) :: rest, acc, e, hwf, h => by
    obtain ⟨cls, clss, hc, hpay⟩ := hwf _ (List.mem_cons_self _ _)
    obtain rfl : clss₀ = cls :: clss := hc
    rw [collectClasses_cons hpay] at h
    rw [List.flatMap_cons, entryRows_cons, List.map_append, map_sample_rows, ← List.append_assoc]
    cases hs : collectSamples cls.name (payloadName ovos cls) (notificationSamples cls) acc with
    | error err =>
      rw [hs] at h
      cases h
      obtain ⟨s, rfl, hcount⟩ := collectSamples_error hs
      exact ⟨s, rfl, le_trans hcount ((List.sublist_append_left _ _).count_le s)⟩
    | ok acc' =>
      rw [hs] at h
      obtain ⟨s, rfl, hcount⟩ := collectClasses_error (fun e he => hwf e (List.mem_cons_of_mem _ he)) h
      rw [collectSamples_eq_of_ok hs, List.map_append, map_sample_rows] at hcount
      exact ⟨s, rfl, hcount⟩

end Loops

/-! ## What the directive returns -/

section Directive

variable {reg : Registry}

theorem rowLe_trans (a b c : Row) (hab : rowLe a b = true) (hbc : rowLe b c = true) :
    rowLe a c = true := by
  simp only [rowLe, decide_eq_true_eq] at *
  exact le_trans hab hbc

theorem rowLe_total (a b : Row) : (rowLe a b || rowLe b a) = true := by
  simp only [rowLe, Bool.or_eq_true, decide_eq_true_eq]
  exact le_total _ _

theorem collectNotifications_ok_iff (hreg : reg.PayloadsRegistered) {out : List Row} :
    collectNotifications reg = .ok out ↔
      (reg.rows.map Row.sample).Nodup ∧ out = reg.rows.mergeSort rowLe := by
  unfold collectNotifications
  cases h : collectClasses reg.entries reg.entries [] with
  | error e =>
    obtain ⟨s, -, hcount⟩ := collectClasses_error hreg h
    simp only [bind, Except.bind, reduceCtorEq, false_iff, not_and]
    exact fun hnd => absurd hnd (not_nodup_of_count hcount (List.Sublist.refl _))
  | ok acc =>
    have h0 : (([] : List Row).map Row.sample).Nodup := List.nodup_nil
    have hacc := (collectClasses_ok hreg h0).1 h
    simp only [List.map_nil, List.nil_append] at hacc
    obtain ⟨hnd, rfl⟩ := hacc
    simp only [bind, Except.bind, pure, Except.pure, Except.ok.injEq, Registry.rows]
    exact ⟨fun h => ⟨hnd, h.symm⟩, fun h => h.2.symm⟩

theorem collectNotifications_error (hreg : reg.PayloadsRegistered) {e : CollectError}
    (h : collectNotifications reg = .error e) :
    ∃ s, e = .valueError (duplicatedMessage s) ∧ 2 ≤ (reg.rows.map Row.sample).count s := by
  unfold collectNotifications at h
  cases hc : collectClasses reg.entries reg.entries [] with
  | error e' =>
    rw [hc] at h
    cases h
    simpa using collectClasses_error hreg hc
  | ok acc =>
    rw [hc] at h
    cases h

/-- **`_collect_notifications` builds the declared table.**  On a registry whose notification
classes all name a registered payload class, it succeeds exactly when no sample file is declared
twice, returning the declared rows sorted as Python sorts tuples; and when it fails, its
`ValueError` names a sample file declared twice. -/
theorem collectNotifications_spec (reg : Registry) (hreg : reg.PayloadsRegistered) :
    (∀ out, collectNotifications reg = .ok out ↔
      (reg.rows.map Row.sample).Nodup ∧ out = reg.rows.mergeSort rowLe) ∧
    (∀ e, collectNotifications reg = .error e →
      ∃ s, e = .valueError (duplicatedMessage s) ∧ 2 ≤ (reg.rows.map Row.sample).count s) :=
  ⟨fun _ => collectNotifications_ok_iff hreg, fun _ => collectNotifications_error hreg⟩

/-- One notification class with one sample, and its payload class. -/
def oneNotification : Registry where
  entries := [("InstanceCreateNotification",
      [⟨"InstanceCreateNotification", true, some "InstanceCreatePayload", ["instance-create-end.json"]⟩]),
    ("InstanceCreatePayload", [⟨"InstanceCreatePayload", false, none, []⟩])]
  nodup := by decide

theorem oneNotification_payloadsRegistered : oneNotification.PayloadsRegistered := by
  intro e he
  simp only [oneNotification, List.mem_cons, List.mem_singleton, List.not_mem_nil, or_false] at he
  rcases he with rfl | rfl
  · exact ⟨_, _, rfl, fun _ => ⟨_, _, _, rfl, rfl⟩⟩
  · exact ⟨_, _, rfl, fun h => by cases h⟩

theorem collectNotifications_spec_one :
    oneNotification.PayloadsRegistered ∧
    (∀ out, collectNotifications oneNotification = .ok out ↔
      (oneNotification.rows.map Row.sample).Nodup ∧ out = oneNotification.rows.mergeSort rowLe) ∧
    (∀ e, collectNotifications oneNotification = .error e →
      ∃ s, e = .valueError (duplicatedMessage s) ∧ 2 ≤ (oneNotification.rows.map Row.sample).count s) :=
  ⟨oneNotification_payloadsRegistered,
    collectNotifications_spec oneNotification oneNotification_payloadsRegistered⟩

/-- A class that declares one sample file twice. -/
example : collectNotifications
    ⟨[("Twice", [⟨"Twice", true, some "Twice", ["a.json", "a.json"]⟩])], by decide⟩ =
      .error (.valueError "Duplicated usage of a.json sample file detected") := by
  simp [collectNotifications, collectClasses, registryFirst, collectSamples, duplicatedMessage, Row.sample,
    List.lookup_cons, bind, Except.bind]

/-- **The table it returns** is sorted, holds every declared row, and has one row per sample
file. -/
theorem collectNotifications_table (reg : Registry) (hreg : reg.PayloadsRegistered)
    {out : List Row} (h : collectNotifications reg = .ok out) :
    out.Pairwise (fun a b => rowLe a b = true) ∧ out.Perm reg.rows ∧ (out.map Row.sample).Nodup := by
  obtain ⟨hnd, rfl⟩ := (collectNotifications_ok_iff hreg).1 h
  have hperm := List.mergeSort_perm reg.rows rowLe
  exact ⟨List.sorted_mergeSort rowLe_trans rowLe_total _, hperm, (hperm.map _).nodup_iff.2 hnd⟩

theorem collectNotifications_table_one :
    oneNotification.PayloadsRegistered ∧
    collectNotifications oneNotification =
      .ok [("InstanceCreateNotification", "InstanceCreatePayload", "instance-create-end.json")] ∧
    [("InstanceCreateNotification", "InstanceCreatePayload", "instance-create-end.json")].Pairwise
      (fun a b => rowLe a b = true) ∧
    [("InstanceCreateNotification", "InstanceCreatePayload", "instance-create-end.json")].Perm
      oneNotification.rows ∧
    ([("InstanceCreateNotification", "InstanceCreatePayload", "instance-create-end.json")].map
      Row.sample).Nodup :=
  have h : collectNotifications oneNotification =
      .ok [("InstanceCreateNotification", "InstanceCreatePayload", "instance-create-end.json")] := by
    simp [collectNotifications, oneNotification, collectClasses, registryFirst, collectSamples,
      List.lookup_cons, bind, Except.bind, pure, Except.pure]
  ⟨oneNotification_payloadsRegistered, h,
    collectNotifications_table oneNotification oneNotification_payloadsRegistered h⟩

end Directive

end NovaValidation
