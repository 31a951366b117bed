import Mathlib.Data.Int.Interval
import Mathlib.Data.Fintype.Fin
import Mathlib.Data.List.FinRange
import Mathlib.Data.List.Nodup
import Mathlib.Data.Nat.Bitwise
import NovaValidation.ParameterTypes.RegexRange

/-!
# ParameterTypes/Memorize — what the `memorize` cache returns over a run of calls

`memorize` wraps `_build_regex_range` with a global dictionary keyed by
`"%s:%s:%s" % (func.__name__, hash(str(args)), hash(str(kwargs)))`.  A call reads its key with
`dict.get`; when that gives `None` — the key is missing, or `None` is stored under it — it calls
the function and stores the result under the key, `None` included.  `_reset_cache` replaces the
dictionary by an empty one.

The key is a function of the arguments, not the arguments: two argument pairs whose renderings
hash alike share an entry.  So a call returns the function's value on the *first* argument pair
called since the last reset that has its key and a value other than `None` (`CacheInv.run`), and
the cache holds exactly those values (`CacheInv.memoCache`).  For the builder, which never returns
`None`, that is its value on the call's own arguments only when the pairs sharing a key since the
last reset share the value (`memorize_buildRegexRange`).  A 64-bit hash cannot keep the builder's
argument pairs apart: given `65` printable code points below `0xFFFF`, two of the exclude lists
drawn from them have colliding renderings and different outputs (`exists_collision`).

Arguments are abstract here: a call is any value `x`, `str(args)` and `str(kwargs)` are functions
of it, and `hash` is any function to integers.  The dictionary is seen through `dict.get`, the only
way the code reads it, so a missing key and a stored `None` are both `none`.
-/

namespace NovaValidation

/-- `"%s:%s:%s" % (name, hash(str(args)), hash(str(kwargs)))`. -/
def memoKey (name : String) (hash : String → Int) (strArgs strKwargs : String) : String :=
  name ++ ":" ++ toString (hash strArgs) ++ ":" ++ toString (hash strKwargs)

/-- A call of the decorated function, or `_reset_cache()`. -/
inductive CacheEvent (α : Type)
  | call (x : α)
  | reset

/-- The arguments of the calls among the events. -/
def calls {α : Type} : List (CacheEvent α) → List α
  | [] => []
  | .call x :: evs => x :: calls evs
  | .reset :: evs => calls evs

section Memo

variable {α β : Type}

/-- The cache step of `memorizer` for a key function: `value = _REGEX_RANGE_CACHE.get(key)`, and
when `value is None` the function's value, stored under the key whatever it is.  `func` answers
`none` for Python's `None`. -/
def memoCall (key : α → String) (func : α → Option β) (cache : String → Option β) (x : α) :
    Option β × (String → Option β) :=
  match cache (key x) with
  | some value => (some value, cache)
  | none => (func x, fun k => if k = key x then func x else cache k)

/-- `memorize(func)` called with the arguments `x`, on the cache before the call: the value
returned and the cache after it. -/
def memorizer (name : String) (hash : String → Int) (strArgs strKwargs : α → String)
    (func : α → Option β) : (String → Option β) → α → Option β × (String → Option β) :=
  memoCall (fun x => memoKey name hash (strArgs x) (strKwargs x)) func

/-- The values the calls among `evs` return, from the cache `cache`; `_reset_cache()` starts an
empty one. -/
def memoRun (call : (String → Option β) → α → Option β × (String → Option β)) :
    (String → Option β) → List (CacheEvent α) → List (Option β)
  | _, [] => []
  | _, .reset :: evs => memoRun call (fun _ => none) evs
  | cache, .call x :: evs => (call cache x).1 :: memoRun call (call cache x).2 evs

/-- The cache the events `evs` leave, from `cache`: the state half of `memoRun`. -/
def memoCache (call : (String → Option β) → α → Option β × (String → Option β)) :
    (String → Option β) → List (CacheEvent α) → String → Option β
  | cache, [] => cache
  | _, .reset :: evs => memoCache call (fun _ => none) evs
  | cache, .call x :: evs => memoCache call (call cache x).2 evs

variable {key : α → String} {func : α → Option β} {cache : String → Option β} {x : α}

theorem memoCall_hit {v : β} (h : cache (key x) = some v) :
    memoCall key func cache x = (some v, cache) := by
  simp [memoCall, h]

theorem memoCall_miss (h : cache (key x) = none) :
    memoCall key func cache x = (func x, fun k => if k = key x then func x else cache k) := by
  simp [memoCall, h]

end Memo

/-! ## What a run returns and what the cache holds

The abstract model: after the calls `seen` since the last reset, a call on `x` returns `func` of
the first of `seen ++ [x]` with `x`'s key and a value other than `None`, or `func x` when there is
none. -/

section Spec

variable {α β : Type} (key : α → String) (func : α → Option β)

/-- The first argument among `seen` with key `k` on which `func` is not `None`. -/
def firstWithKey (seen : List α) (k : String) : Option α :=
  seen.find? fun y => key y = k ∧ (func y).isSome

/-- What each call returns, by the first argument with its key since the last reset. -/
def memoSpec : List α → List (CacheEvent α) → List (Option β)
  | _, [] => []
  | _, .reset :: evs => memoSpec [] evs
  | seen, .call x :: evs =>
    func ((firstWithKey key func (seen ++ [x]) (key x)).getD x) :: memoSpec (seen ++ [x]) evs

/-- The cache invariant: under every key sits `func` of the first argument since the last reset
with that key and a value other than `None`, and nothing under a key no such argument has. -/
def CacheInv (seen : List α) (cache : String → Option β) : Prop :=
  ∀ k, cache k = (firstWithKey key func seen k).bind func

theorem cacheInv_reset : CacheInv key func [] (fun _ => none) := fun _ => rfl

theorem firstWithKey_append (seen : List α) (x : α) (k : String) :
    firstWithKey key func (seen ++ [x]) k =
      (firstWithKey key func seen k).or (if key x = k ∧ (func x).isSome then some x else none) := by
  simp only [firstWithKey, List.find?_append, List.find?_singleton, decide_eq_true_eq]

theorem firstWithKey_some {seen : List α} {k : String} {y : α}
    (h : firstWithKey key func seen k = some y) : y ∈ seen ∧ key y = k ∧ (func y).isSome := by
  simpa using And.intro (List.mem_of_find?_eq_some h) (List.find?_some h)

end Spec

/-- The calls since the last reset among `evs`, after the calls `seen`. -/
def sinceReset {α : Type} : List α → List (CacheEvent α) → List α
  | seen, [] => seen
  | _, .reset :: evs => sinceReset [] evs
  | seen, .call x :: evs => sinceReset (seen ++ [x]) evs

/-- The calls among `evs` cut at each reset: the stretches between resets, the first one after
the calls `seen`. -/
def segments {α : Type} : List α → List (CacheEvent α) → List (List α)
  | seen, [] => [seen]
  | seen, .reset :: evs => seen :: segments [] evs
  | seen, .call x :: evs => segments (seen ++ [x]) evs

section Step

variable {α β : Type} {key : α → String} {func : α → Option β} {seen : List α}
  {cache : String → Option β}

/-- **The step lemma**: a call returns what `memoSpec` says and keeps the invariant, one argument
more seen. -/
theorem CacheInv.step (h : CacheInv key func seen cache) (x : α) :
    (memoCall key func cache x).1 = func ((firstWithKey key func (seen ++ [x]) (key x)).getD x) ∧
      CacheInv key func (seen ++ [x]) (memoCall key func cache x).2 := by
  cases hk : firstWithKey key func seen (key x) with
  | some y =>
    -- a hit: `y`'s value is no `None`, so the cache, and the first argument with each key, stay
    obtain ⟨v, hv⟩ := Option.isSome_iff_exists.1 (firstWithKey_some key func hk).2.2
    rw [memoCall_hit (by rw [h, hk, Option.some_bind, hv])]
    refine ⟨by rw [firstWithKey_append, hk]; exact hv.symm, fun k => ?_⟩
    show cache k = _
    rw [h, firstWithKey_append]
    cases hk' : firstWithKey key func seen k with
    | some _ => rfl
    | none =>
      have hne : key x ≠ k := fun e => by simp [e, hk'] at hk
      simp [hne]
  | none =>
    -- a miss: the value is computed and stored, `None` included; `x` becomes the first argument
    -- with its key exactly when its value is no `None`
    rw [memoCall_miss (by rw [h, hk]; rfl)]
    refine ⟨by rw [firstWithKey_append, hk]; cases hfx : func x <;> simp [hfx], fun k => ?_⟩
    by_cases hx : k = key x
    · subst hx
      rw [firstWithKey_append, hk]
      cases hfx : func x <;> simp [hfx]
    · show (if k = key x then _ else cache k) = _
      rw [if_neg hx, h, firstWithKey_append, if_neg fun h' => hx h'.1.symm, Option.or_none]

/-- **The run lemma**: from a cache that keeps the invariant, the calls return what `memoSpec`
says. -/
theorem CacheInv.run (h : CacheInv key func seen cache) (evs : List (CacheEvent α)) :
    memoRun (memoCall key func) cache evs = memoSpec key func seen evs := by
  induction evs generalizing seen cache with
  | nil => rfl
  | cons ev evs ih =>
    cases ev with
    | reset => exact ih (cacheInv_reset _ _)
    | call x =>
      obtain ⟨hval, hinv⟩ := h.step x
      rw [memoRun, memoSpec, hval, ih hinv]

/-- **The cache after a run**: from a cache that keeps the invariant, the events leave one that
keeps it for the calls since the last reset. -/
theorem CacheInv.memoCache (h : CacheInv key func seen cache) (evs : List (CacheEvent α)) :
    CacheInv key func (sinceReset seen evs) (memoCache (memoCall key func) cache evs) := by
  induction evs generalizing seen cache with
  | nil => exact h
  | cons ev evs ih =>
    cases ev with
    | reset => exact ih (cacheInv_reset _ _)
    | call x => exact ih (h.step x).2

end Step

/-- The calls `seen` lie in one stretch of `segments seen evs`. -/
theorem subset_segments {α : Type} (seen : List α) (evs : List (CacheEvent α)) :
    ∃ seg ∈ segments seen evs, seen ⊆ seg := by
  induction evs generalizing seen with
  | nil => exact ⟨seen, List.mem_singleton_self _, List.Subset.refl _⟩
  | cons ev evs ih =>
    cases ev with
    | reset => exact ⟨seen, List.mem_cons_self _ _, List.Subset.refl _⟩
    | call x =>
      obtain ⟨seg, hseg, hsub⟩ := ih (seen ++ [x])
      exact ⟨seg, hseg, (List.subset_append_left _ _).trans hsub⟩

/-- When, between resets, the calls that share a key share the value, every call returns `func`
of its own arguments. -/
theorem memoSpec_eq_map {α β : Type} (key : α → String) (func : α → Option β) (seen : List α)
    (evs : List (CacheEvent α))
    (h : ∀ seg ∈ segments seen evs, ∀ x ∈ seg, ∀ y ∈ seg, key x = key y → func x = func y) :
    memoSpec key func seen evs = (calls evs).map func := by
  induction evs generalizing seen with
  | nil => rfl
  | cons ev evs ih =>
    cases ev with
    | reset => exact ih [] fun seg hseg => h seg (List.mem_cons_of_mem _ hseg)
    | call x =>
      obtain ⟨seg, hseg, hsub⟩ := subset_segments (seen ++ [x]) evs
      have hx : func ((firstWithKey key func (seen ++ [x]) (key x)).getD x) = func x := by
        cases hy : firstWithKey key func (seen ++ [x]) (key x) with
        | none => rfl
        | some y =>
          obtain ⟨hmem, hky, -⟩ := firstWithKey_some key func hy
          exact h seg hseg y (hsub hmem) x (hsub (by simp)) hky
      rw [memoSpec, hx, calls, List.map_cons, ih _ h]

/-! ## Between resets, an entry that is no `None` never changes

A call stores under its key only when `dict.get` gives `None` there, so between two resets an
entry other than `None` stays.  Hence a call returns what an earlier call since the last reset
with its key returned, whatever lies between them, when that was no `None`
(`memorizer_same_key`) — the caching is coherent per key, even when the key conflates different
arguments.  A `None` result is stored too, and the next call with the key computes again and
overwrites it. -/

section Stable

variable {α β : Type}

/-- **A run splits anywhere**: the later events run from the cache the earlier ones leave. -/
theorem memoRun_append (call : (String → Option β) → α → Option β × (String → Option β)) :
    ∀ (cache : String → Option β) (evs₁ evs₂ : List (CacheEvent α)),
      memoRun call cache (evs₁ ++ evs₂) =
        memoRun call cache evs₁ ++ memoRun call (memoCache call cache evs₁) evs₂
  | _, [], _ => rfl
  | _, .reset :: evs₁, evs₂ => memoRun_append call _ evs₁ evs₂
  | cache, .call x :: evs₁, evs₂ =>
    congrArg ((call cache x).1 :: ·) (memoRun_append call (call cache x).2 evs₁ evs₂)

variable {key : α → String} {func : α → Option β} {cache : String → Option β}

/-- A call keeps every entry of the cache that is no `None`. -/
theorem memoCall_keeps {k : String} {v : β} (h : cache k = some v) (x : α) :
    (memoCall key func cache x).2 k = some v := by
  cases hx : cache (key x) with
  | some w => rw [memoCall_hit hx]; exact h
  | none =>
    rw [memoCall_miss hx]
    have hk : k ≠ key x := fun hk => by rw [hk, hx] at h; cases h
    simp only [if_neg hk, h]

/-- A call leaves what it returned under its key. -/
theorem memoCall_stores (x : α) :
    (memoCall key func cache x).2 (key x) = (memoCall key func cache x).1 := by
  cases hx : cache (key x) with
  | some w => rw [memoCall_hit hx]; exact hx
  | none => rw [memoCall_miss hx]; simp

/-- Events without a reset keep every entry of the cache that is no `None`. -/
theorem memoCache_keeps {k : String} {v : β} {evs : List (CacheEvent α)}
    (hno : CacheEvent.reset ∉ evs) :
    ∀ {cache : String → Option β}, cache k = some v →
      memoCache (memoCall key func) cache evs k = some v := by
  induction evs with
  | nil => exact fun h => h
  | cons ev evs ih =>
    cases ev with
    | reset => exact absurd (List.mem_cons_self _ _) hno
    | call x => exact fun h => ih (fun hm => hno (List.mem_cons_of_mem _ hm)) (memoCall_keeps h x)

/-- A call on `x` that returns a value, any events without a reset, and a call on `y` with `x`'s
key: the call on `y` returns what the call on `x` did. -/
theorem memoRun_same_key {x y : α} (hx : ((memoCall key func cache x).1).isSome)
    {mid : List (CacheEvent α)} (hmid : CacheEvent.reset ∉ mid) (hkey : key y = key x) :
    memoRun (memoCall key func) cache (.call x :: (mid ++ [.call y])) =
      (memoCall key func cache x).1 ::
        (memoRun (memoCall key func) (memoCall key func cache x).2 mid ++
          [(memoCall key func cache x).1]) := by
  obtain ⟨v, hv⟩ := Option.isSome_iff_exists.1 hx
  have hstored := @memoCache_keeps _ _ key func _ _ _ hmid _ ((memoCall_stores x).trans hv)
  rw [← hkey] at hstored
  rw [memoRun, memoRun_append]
  simp only [memoRun, memoCall_hit hstored, hv]

end Stable

/-- **Coherence per key**: after a call of the memorized function on `x` that returns a value
other than `None`, any events without a reset, and a call on a `y` with `x`'s key, the call on `y`
returns what the call on `x` did — for every `hash`, every rendering of the arguments and every
function. -/
theorem memorizer_same_key {α β : Type} (name : String) (hash : String → Int)
    (strArgs strKwargs : α → String) (func : α → Option β) (cache : String → Option β) (x y : α)
    (hx : ((memorizer name hash strArgs strKwargs func cache x).1).isSome)
    (mid : List (CacheEvent α)) (hmid : CacheEvent.reset ∉ mid)
    (hkey : memoKey name hash (strArgs y) (strKwargs y) =
      memoKey name hash (strArgs x) (strKwargs x)) :
    memoRun (memorizer name hash strArgs strKwargs func) cache (.call x :: (mid ++ [.call y])) =
      (memorizer name hash strArgs strKwargs func cache x).1 ::
        (memoRun (memorizer name hash strArgs strKwargs func)
          (memorizer name hash strArgs strKwargs func cache x).2 mid ++
          [(memorizer name hash strArgs strKwargs func cache x).1]) :=
  memoRun_same_key hx hmid hkey

/-- Under the string-length hash, `exclude=[58]` and then `exclude=[59]`, memorizing `some`: the
second call returns the first's value. -/
theorem memorizer_same_key_length :
    ((memorizer "_build_regex_range" (fun s => (s.length : Int)) (fun _ => "()") toString some
        (fun _ => none) [58]).1).isSome = true ∧
      CacheEvent.reset ∉ ([] : List (CacheEvent (List Nat))) ∧
      memoKey "_build_regex_range" (fun s => (s.length : Int)) "()" (toString [59]) =
        memoKey "_build_regex_range" (fun s => (s.length : Int)) "()" (toString [58]) ∧
      memoRun (memorizer "_build_regex_range" (fun s => (s.length : Int)) (fun _ => "()") toString
          some) (fun _ => none) [.call [58], .call [59]] = [some [58], some [58]] := by
  refine ⟨rfl, List.not_mem_nil _, ?key, (memorizer_same_key "_build_regex_range"
    (fun s => (s.length : Int)) (fun _ => "()") toString some (fun _ => none) [58] [59] rfl []
    (List.not_mem_nil _) ?key).trans rfl⟩
  -- `"[58]"` and `"[59]"` have one length
  decide

/-! ## The decorated builder -/

/-- The parameters a call of `_build_regex_range` binds, its defaults (`ws=True`, `invert=False`,
`exclude=None` read as `[]`) applied. -/
structure RangeArgs where
  ws : Bool
  invert : Bool
  exclude : List Nat

/-- The undecorated `_build_regex_range` on bound parameters. -/
def RangeArgs.build (category : Nat → String) (a : RangeArgs) : List Nat :=
  buildRegexRange category a.ws a.invert a.exclude

/-- **What the memorized builder returns, and what its cache holds.**  For any calls `x` —
binding the parameters `bind x`, rendered by `str` as `strArgs x` and `strKwargs x` — and any
`hash`, interleaved with resets: each call returns the builder's value on the first call since
the last reset with its key; after every run the cache holds, under each key, the builder's value
on the first call since the last reset with that key, and nothing under other keys; so each call
returns the builder's value on its own arguments whenever, between resets, the calls sharing a
key share that value.  The builder never returns `None`. -/
theorem memorize_buildRegexRange (category : Nat → String) {C : Type} (bind : C → RangeArgs)
    (hash : String → Int) (strArgs strKwargs : C → String) (evs : List (CacheEvent C)) :
    memoRun (memorizer "_build_regex_range" hash strArgs strKwargs
        fun x => some ((bind x).build category)) (fun _ => none) evs =
      memoSpec (fun x => memoKey "_build_regex_range" hash (strArgs x) (strKwargs x))
        (fun x => some ((bind x).build category)) [] evs ∧
    CacheInv (fun x => memoKey "_build_regex_range" hash (strArgs x) (strKwargs x))
        (fun x => some ((bind x).build category)) (sinceReset [] evs)
        (memoCache (memorizer "_build_regex_range" hash strArgs strKwargs
          fun x => some ((bind x).build category)) (fun _ => none) evs) ∧
    ((∀ seg ∈ segments [] evs, ∀ x ∈ seg, ∀ y ∈ seg,
        memoKey "_build_regex_range" hash (strArgs x) (strKwargs x) =
          memoKey "_build_regex_range" hash (strArgs y) (strKwargs y) →
        (bind x).build category = (bind y).build category) →
      memoRun (memorizer "_build_regex_range" hash strArgs strKwargs
          fun x => some ((bind x).build category)) (fun _ => none) evs =
        (calls evs).map fun x => some ((bind x).build category)) := by
  have hinv := cacheInv_reset (fun x => memoKey "_build_regex_range" hash (strArgs x) (strKwargs x))
    (fun x => some ((bind x).build category))
  exact ⟨hinv.run evs, hinv.memoCache evs, fun h => (hinv.run evs).trans (memoSpec_eq_map _ _ [] evs
    fun seg hseg x hx y hy hk => congrArg some (h seg hseg x hx y hy hk))⟩

/-- Under the string-length hash, `exclude=[58]` and `exclude=[59]` share a key; a reset between
the two calls keeps each call's own value. -/
theorem memorize_buildRegexRange_reset :
    (∀ seg ∈ segments [] [.call [58], .reset, .call [59]], ∀ x ∈ seg, ∀ y ∈ seg,
        memoKey "_build_regex_range" (fun s => (s.length : Int)) "()" (toString x) =
          memoKey "_build_regex_range" (fun s => (s.length : Int)) "()" (toString y) →
        (RangeArgs.mk true false x).build (fun c => if c < 32 then "Cc" else "Ll") =
          (RangeArgs.mk true false y).build (fun c => if c < 32 then "Cc" else "Ll")) ∧
    memoRun (memorizer "_build_regex_range" (fun s => (s.length : Int)) (fun _ => "()") toString
        fun x => some ((RangeArgs.mk true false x).build fun c => if c < 32 then "Cc" else "Ll"))
        (fun _ => none) [.call [58], .reset, .call [59]] =
      (calls [.call [58], .reset, .call [59]]).map
        fun x => some ((RangeArgs.mk true false x).build fun c => if c < 32 then "Cc" else "Ll") := by
  refine ⟨?h, (memorize_buildRegexRange (fun c => if c < 32 then "Cc" else "Ll")
    (RangeArgs.mk true false) (fun s => (s.length : Int)) (fun _ => "()") toString _).2.2 ?h⟩
  -- each stretch between resets holds one call
  simp [segments]

/-! ## A 64-bit hash collides

Python's `hash` returns a `Py_hash_t`, a signed 64-bit integer.  The exclude lists drawn from `65`
printable code points are `2^65`, and all but the full one leave one of them valid: more argument
pairs with pairwise different outputs than hash values. -/

/-- The exclude list drawn from the code points `pts` by the number `n`: the points at the set
bits of `n`. -/
def excludeOfBits (pts : List Nat) (n : Nat) : List Nat :=
  ((List.finRange pts.length).filter fun i : Fin pts.length => n.testBit i.val).map pts.get

theorem get_mem_excludeOfBits {pts : List Nat} (hnd : pts.Nodup) (n : Nat) (i : Fin pts.length) :
    pts.get i ∈ excludeOfBits pts n ↔ n.testBit i = true := by
  simp only [excludeOfBits, List.mem_map, List.mem_filter, List.mem_finRange, true_and,
    hnd.get_inj_iff, exists_eq_right]

/-- Two different numbers below `2 ^ w` differ at a bit below `w`. -/
theorem exists_testBit_ne {w x y : Nat} (hx : x < 2 ^ w) (hy : y < 2 ^ w) (hxy : x ≠ y) :
    ∃ i < w, x.testBit i ≠ y.testBit i := by
  obtain ⟨i, hi⟩ : ∃ i, x.testBit i ≠ y.testBit i := by
    by_contra h
    push_neg at h
    exact hxy (Nat.eq_of_testBit_eq h)
  refine ⟨i, Nat.lt_of_not_le fun h => hi ?_, hi⟩
  have hpow : 2 ^ w ≤ 2 ^ i := Nat.pow_le_pow_right (by omega) h
  exact (Nat.testBit_eq_false_of_lt (by omega)).trans (Nat.testBit_eq_false_of_lt (by omega)).symm

section Collision

variable {category : Nat → String} {pts : List Nat} (hlen : pts.length = 65) (hnd : pts.Nodup)
  (hpts : ∀ c ∈ pts, c < 0xFFFF ∧ isPrintable category c = true)

include hnd hpts in
/-- A point of `pts` is valid for `exclude=excludeOfBits pts n` exactly when `n`'s bit at its
position is clear. -/
theorem validChar_excludeOfBits (n : Nat) (i : Fin pts.length) :
    validChar category true false (excludeOfBits pts n) (pts.get i) = !n.testBit i := by
  rw [Bool.eq_iff_iff, validChar_ws_iff, get_mem_excludeOfBits hnd,
    (hpts _ (List.get_mem _ _ _)).2]
  simp

include hlen hnd hpts in
/-- Two different numbers below `2^65 - 1` draw exclude lists with different builder outputs. -/
theorem build_excludeOfBits_ne {x y : Nat} (hx : x < 2 ^ 65 - 1) (hy : y < 2 ^ 65 - 1)
    (hxy : x ≠ y) :
    buildRegexRange category true false (excludeOfBits pts x) ≠
      buildRegexRange category true false (excludeOfBits pts y) := by
  -- `2^65 - 1` has all `65` bits set, so each number leaves a point of `pts` valid
  have hvalid : ∀ n < 2 ^ 65 - 1,
      ∃ d < 0xFFFF, validChar category true false (excludeOfBits pts n) d = true := by
    intro n hn
    obtain ⟨i, hi, hne⟩ := exists_testBit_ne (w := 65) (by omega) (by omega) hn.ne
    have hb : n.testBit i = false := by
      rw [Nat.testBit_two_pow_sub_one, decide_eq_true hi] at hne
      simpa using hne
    exact ⟨pts.get ⟨i, by omega⟩, (hpts _ (List.get_mem _ _ _)).1,
      by rw [validChar_excludeOfBits hnd hpts, hb]; rfl⟩
  obtain ⟨i, hi, hne⟩ := exists_testBit_ne (w := 65) (by omega) (by omega) hxy
  refine buildRegexRange_ne (c := pts.get ⟨i, by omega⟩) (hpts _ (List.get_mem _ _ _)).1 ?_
    (hvalid x hx) (hvalid y hy)
  rw [validChar_excludeOfBits hnd hpts, validChar_excludeOfBits hnd hpts]
  simpa using hne

include hlen hnd hpts in
/-- **Pigeonhole**: for every hash into the signed 64-bit range and every rendering of
`{'exclude': E}`, two exclude lists hash alike and give different builder outputs. -/
theorem exists_collision {hash : String → Int} (hbound : ∀ s, -2 ^ 63 ≤ hash s ∧ hash s < 2 ^ 63)
    (strKwargs : List Nat → String) :
    ∃ E₁ E₂, hash (strKwargs E₁) = hash (strKwargs E₂) ∧
      buildRegexRange category true false E₁ ≠ buildRegexRange category true false E₂ := by
  have hcard : (Finset.Ico (-2 ^ 63 : Int) (2 ^ 63)).card <
      (Finset.univ : Finset (Fin (2 ^ 65 - 1))).card := by
    rw [Int.card_Ico, Finset.card_univ, Fintype.card_fin]
    decide
  obtain ⟨x, -, y, -, hxy, hxy'⟩ := Finset.exists_ne_map_eq_of_card_lt_of_maps_to hcard
    (f := fun n => hash (strKwargs (excludeOfBits pts n.val)))
    fun n _ => Finset.mem_Ico.2 (hbound _)
  exact ⟨_, _, hxy', build_excludeOfBits_ne hlen hnd hpts x.isLt y.isLt (Fin.val_ne_of_ne hxy)⟩

end Collision

/-- **A 64-bit hash cannot keep the builder's arguments apart.**  Category assignments with `65`
printable code points below `0xFFFF` and hashes into the signed 64-bit range exist (Unicode and
Python's `hash` are such); and under none of them, with no rendering of `{'exclude': E}`, do every
two calls `_build_regex_range(exclude=E₁)`, `_build_regex_range(exclude=E₂)` from an empty cache
return the builder's values. -/
theorem memorize_buildRegexRange_collision :
    (∃ (category : Nat → String) (hash : String → Int),
      (∃ pts : List Nat, pts.length = 65 ∧ pts.Nodup ∧
        ∀ c ∈ pts, c < 0xFFFF ∧ isPrintable category c = true) ∧
      ∀ s, -2 ^ 63 ≤ hash s ∧ hash s < 2 ^ 63) ∧
    ¬ ∃ (category : Nat → String) (hash : String → Int) (strKwargs : List Nat → String),
      (∃ pts : List Nat, pts.length = 65 ∧ pts.Nodup ∧
        ∀ c ∈ pts, c < 0xFFFF ∧ isPrintable category c = true) ∧
      (∀ s, -2 ^ 63 ≤ hash s ∧ hash s < 2 ^ 63) ∧
      ∀ E₁ E₂ : List Nat,
        memoRun (memorizer "_build_regex_range" hash (fun _ => "()") strKwargs
            fun E => some ((RangeArgs.mk true false E).build category)) (fun _ => none)
            [.call E₁, .call E₂] =
          [some ((RangeArgs.mk true false E₁).build category),
            some ((RangeArgs.mk true false E₂).build category)] := by
  refine ⟨⟨fun _ => "Ll", fun _ => 0, ⟨List.range 65, List.length_range 65, List.nodup_range 65,
    fun c hc => ⟨by simp at hc; omega, rfl⟩⟩,
    fun _ => (by decide : -2 ^ 63 ≤ (0 : Int) ∧ (0 : Int) < 2 ^ 63)⟩, ?_⟩
  rintro ⟨category, hash, strKwargs, ⟨pts, hlen, hnd, hpts⟩, hbound, hall⟩
  obtain ⟨E₁, E₂, hxy, hne⟩ := exists_collision hlen hnd hpts hbound strKwargs
  have hkey : memoKey "_build_regex_range" hash "()" (strKwargs E₂) =
      memoKey "_build_regex_range" hash "()" (strKwargs E₁) := by
    simp only [memoKey, hxy]
  have h := hall E₁ E₂
  simp only [memoRun, memorizer, memoCall, hkey, if_true, List.cons.injEq, Option.some.injEq,
    true_and, and_true] at h
  exact hne h

end NovaValidation
