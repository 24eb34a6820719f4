import Mathlib
import QueryBuilder.Name.Scope
import QueryBuilder.Proofs.Name.Fresh
import QueryBuilder.Proofs.Name.Grammar
import QueryBuilder.Proofs.Run

/-!
# Collisions of identifiers

A scope never takes an identifier twice.  It keeps identifiers as they are before keywords are
escaped, though, and hands out their escaped spellings, so the question is when two spellings
agree.

## What is here

* `escape_eq_escape_iff` — two spellings agree only if one of the identifiers is a keyword and the
  other is what that keyword is escaped to.
* `Scope.free_not_mem`, `Scope.free_eq_iff` — the identifier of a claim is not in use, and one that
  does not end in a digit is the cased name itself.
* `Scope.Call`, `Scope.after`, `Scope.ident?` — calls on a scope, and the identifiers that claims
  among them get.
* `Scope.mem_taken_after_iff` — what does not end in a digit is in use once it has been asked for.
* `Scope.idents_collide_iff` — claims of names collide exactly if a keyword that has no raw
  spelling is claimed and the same word with an underscore at its end is claimed as well; and a
  claim gets a reserved identifier exactly if it claims a keyword whose escaped spelling is
  reserved.
-/

set_option autoImplicit false

namespace QueryBuilder
namespace Name

/-! ## Escaped spellings -/

theorem escape_of_mem_plainKeywords {k : String} (h : k ∈ plainKeywords) :
    escape k = k ++ "_" := by
  rw [escape, if_pos (List.contains_iff_mem.2 h)]

theorem escape_of_mem_rawKeywords {k : String} (h : k ∈ rawKeywords) :
    escape k = "r#" ++ k := by
  have hplain : plainKeywords.contains k = false := by
    revert k
    decide
  rw [escape, hplain, if_neg Bool.false_ne_true, if_pos (List.contains_iff_mem.2 h)]

theorem escape_of_not_mem {ident : String} (hplain : ident ∉ plainKeywords)
    (hraw : ident ∉ rawKeywords) : escape ident = ident := by
  rw [escape, if_neg (by simpa using hplain), if_neg (by simpa using hraw)]

/-- The spelling of a keyword is not a keyword. -/
theorem escape_of_keyword {k : String} (h : k ∈ plainKeywords ++ rawKeywords) :
    escape (escape k) = escape k := by
  revert k
  decide +kernel

theorem escape_inj_of_keyword {k l : String} (hk : k ∈ plainKeywords ++ rawKeywords)
    (hl : l ∈ plainKeywords ++ rawKeywords) (h : escape k = escape l) : k = l := by
  have hmixed : ∀ p ∈ plainKeywords, ∀ r ∈ rawKeywords, p ++ "_" ≠ "r#" ++ r := by
    decide +kernel
  rcases List.mem_append.1 hk with hk | hk <;> rcases List.mem_append.1 hl with hl | hl
  · rw [escape_of_mem_plainKeywords hk, escape_of_mem_plainKeywords hl] at h
    exact (String.append_left_inj _).1 h
  · rw [escape_of_mem_plainKeywords hk, escape_of_mem_rawKeywords hl] at h
    exact absurd h (hmixed k hk l hl)
  · rw [escape_of_mem_rawKeywords hk, escape_of_mem_plainKeywords hl] at h
    exact absurd h.symm (hmixed l hl k hk)
  · rw [escape_of_mem_rawKeywords hk, escape_of_mem_rawKeywords hl] at h
    exact (String.append_right_inj _).1 h

/-- **Two spellings agree only if one identifier is a keyword and the other its spelling.** -/
theorem escape_eq_escape_iff {s t : String} : escape s = escape t ↔
    s = t ∨ (s ∈ plainKeywords ++ rawKeywords ∧ t = escape s)
      ∨ (t ∈ plainKeywords ++ rawKeywords ∧ s = escape t) := by
  have hother : ∀ {ident}, ident ∉ plainKeywords ++ rawKeywords → escape ident = ident := by
    intro ident h
    rw [List.mem_append, not_or] at h
    exact escape_of_not_mem h.1 h.2
  constructor
  · intro h
    by_cases hs : s ∈ plainKeywords ++ rawKeywords
    · by_cases ht : t ∈ plainKeywords ++ rawKeywords
      · exact .inl (escape_inj_of_keyword hs ht h)
      · exact .inr (.inl ⟨hs, (hother ht).symm.trans h.symm⟩)
    · by_cases ht : t ∈ plainKeywords ++ rawKeywords
      · exact .inr (.inr ⟨ht, (hother hs).symm.trans h⟩)
      · exact .inl ((hother hs).symm.trans (h.trans (hother ht)))
  · rintro (rfl | ⟨hs, rfl⟩ | ⟨ht, rfl⟩)
    · rfl
    · exact (escape_of_keyword hs).symm
    · exact escape_of_keyword ht

/-! ## Suffixes -/

/-- Whether a text ends in a digit. -/
def endsInDigit (s : String) : Bool :=
  s.toList.getLast?.any Char.isDigit

theorem endsInDigit_append_toString (s : String) (n : Nat) :
    endsInDigit (s ++ toString n) = true := by
  have hdigits : (toString n).toList = Nat.toDigits 10 n := Nat.toList_repr
  obtain ⟨c, hc⟩ : ∃ c, (Nat.toDigits 10 n).getLast? = some c :=
    Option.isSome_iff_exists.1 (List.getLast?_isSome.2 Nat.toDigits_ne_nil)
  have hlast : (s ++ toString n).toList.getLast? = some c := by
    rw [String.toList_append, hdigits, List.getLast?_append, hc, Option.some_or]
  rw [endsInDigit, hlast]
  exact Nat.isDigit_of_mem_toDigits (by decide) (by decide) (List.mem_of_getLast? hc)

namespace Scope

theorem candidate_injective (convention : Case) (base : String) :
    Function.Injective (candidate convention base) := by
  have hlonger : ∀ n, base ≠ candidate convention base (n + 1) := by
    intro n h
    have hlength := congrArg String.length h
    rw [candidate, String.length_append, String.length_append] at hlength
    have : 0 < (toString (n + 2)).length := Nat.length_repr_pos
    omega
  intro i j h
  cases i with
  | zero =>
    cases j with
    | zero => rfl
    | succ j => exact absurd h (hlonger j)
  | succ i =>
    cases j with
    | zero => exact absurd h.symm (hlonger i)
    | succ j =>
      have := Nat.repr_injective ((String.append_right_inj _).1 h)
      omega

/-- **The identifier of a claim is not in use.** -/
theorem free_not_mem (scope : Scope) (name : String) : scope.free name ∉ scope.taken :=
  fresh_not_mem (candidate_injective _ _)

/-- An identifier that does not end in a digit goes to a name that becomes it by casing. -/
theorem free_eq_iff {scope : Scope} {name x : String} (hx : endsInDigit x = false) :
    scope.free name = x ↔ scope.convention.apply name = x ∧ x ∉ scope.taken := by
  constructor
  · rintro rfl
    refine ⟨?_, free_not_mem scope name⟩
    rw [free, fresh] at hx ⊢
    cases hindex : freshIndex scope.taken
        (candidate scope.convention (scope.convention.apply name)) with
    | zero => rfl
    | succ n =>
      rw [hindex, candidate, endsInDigit_append_toString] at hx
      exact absurd hx (by decide)
  · rintro ⟨rfl, hfree⟩
    exact fresh_eq_of_not_mem hfree

/-! ## Calls -/

/-- A call on a scope. -/
inductive Call where
  | reserve (name : String)
  | claim (name : String)
  deriving DecidableEq

/-- Whether what a call claims is a name.  Reservations may be of anything. -/
def Call.isOfName : Call → Bool
  | .reserve _ => true
  | .claim name => isName name

/-- The identifier that a call is for, before it is made unique and escaped. -/
def Call.asks (convention : Case) : Call → String
  | .reserve name => name
  | .claim name => convention.apply name

/-- The scope after a call. -/
def perform (scope : Scope) : Call → Scope
  | .reserve name => scope.reserve name
  | .claim name => (scope.claim name).2

/-- The scope after some calls. -/
def after (scope : Scope) (calls : List Call) : Scope :=
  calls.foldl perform scope

/-- The identifier that a claim gets in a list of calls; other calls get none. -/
def ident? (scope : Scope) (calls : List Call) (i : Fin calls.length) : Option String :=
  match calls[i] with
  | .reserve _ => none
  | .claim name => some ((scope.after (calls.take i)).claim name).1

/-- The call is a claim of a name that becomes `x` by casing, and is the first to ask for `x`. -/
def ClaimsFirst (scope : Scope) (calls : List Call) (i : Fin calls.length) (x : String) : Prop :=
  (∃ name, calls[i] = .claim name) ∧ calls[i].asks scope.convention = x
    ∧ x ∉ scope.taken ∧ ∀ h < i, calls[h].asks scope.convention ≠ x

/-- One claim is the first to ask for a keyword without a raw spelling, and the other the first to
ask for `x`, which is that word with an underscore at its end. -/
def Crossed (scope : Scope) (calls : List Call) (i j : Fin calls.length) (x : String) : Prop :=
  ∃ k ∈ plainKeywords, x = k ++ "_" ∧ ClaimsFirst scope calls i k ∧ ClaimsFirst scope calls j x

/-- The name is reserved when a call is made. -/
def ReservedBefore (scope : Scope) (calls : List Call) (i : Fin calls.length) (x : String) : Prop :=
  x ∈ scope.taken ∨ ∃ h < i, calls[h] = .reserve x

/-! ## What is in use -/

/-- The identifier that a call takes, before it is escaped. -/
def takes (scope : Scope) : Call → String
  | .reserve name => name
  | .claim name => scope.free name

@[simp]
theorem taken_perform (scope : Scope) (c : Call) :
    (scope.perform c).taken = scope.takes c :: scope.taken := by
  cases c <;> rfl

@[simp]
theorem convention_perform (scope : Scope) (c : Call) :
    (scope.perform c).convention = scope.convention := by
  cases c <;> rfl

@[simp]
theorem convention_after (scope : Scope) (calls : List Call) :
    (scope.after calls).convention = scope.convention := by
  refine List.foldlRecOn (motive := fun s : Scope ↦ s.convention = scope.convention)
    calls perform rfl fun s hs c _ ↦ ?_
  rw [convention_perform, hs]

theorem takes_eq_iff {scope : Scope} {c : Call} {x : String} (hx : endsInDigit x = false)
    (hfree : x ∉ scope.taken) : scope.takes c = x ↔ c.asks scope.convention = x := by
  cases c with
  | reserve name => exact Iff.rfl
  | claim name => exact (free_eq_iff hx).trans (and_iff_left hfree)

/-- What does not end in a digit is in use after a call if it was before or is asked for. -/
theorem mem_taken_perform_iff {scope : Scope} {c : Call} {x : String}
    (hx : endsInDigit x = false) :
    x ∈ (scope.perform c).taken ↔ x ∈ scope.taken ∨ c.asks scope.convention = x := by
  rw [taken_perform, List.mem_cons]
  by_cases hmem : x ∈ scope.taken
  · simp [hmem]
  · simp [hmem, ← takes_eq_iff hx hmem, eq_comm]

/-- **What does not end in a digit is in use once it has been asked for.** -/
theorem mem_taken_after_iff {scope : Scope} {calls : List Call} {x : String}
    (hx : endsInDigit x = false) : x ∈ (scope.after calls).taken ↔
      x ∈ scope.taken ∨ ∃ c ∈ calls, c.asks scope.convention = x := by
  induction calls generalizing scope with
  | nil => simp [after]
  | cons c rest ih =>
    rw [after, List.foldl_cons, ← after, ih, mem_taken_perform_iff hx, convention_perform]
    simp [or_assoc]

/-! ## What claims take -/

variable {scope : Scope} {calls : List Call}

/-- The identifier that a call takes in a list of calls, before it is escaped. -/
def takenAt (scope : Scope) (calls : List Call) (i : Fin calls.length) : String :=
  (scope.after (calls.take i)).takes calls[i]

theorem takenAt_mem {n m : Fin calls.length} (hnm : n < m) :
    takenAt scope calls n ∈ (scope.after (calls.take m)).taken := by
  have hnext : takenAt scope calls n ∈ (scope.after (calls.take (n + 1))).taken := by
    rw [after, foldl_take_succ, taken_perform]
    exact List.mem_cons_self
  refine foldl_take_of_le (P := (_ ∈ Scope.taken ·)) (fun s c h ↦ ?_) hnm hnext
  rw [taken_perform]
  exact List.mem_cons_of_mem _ h

theorem ident?_eq_some_iff {i : Fin calls.length} {x : String} : scope.ident? calls i = some x ↔
    (∃ name, calls[i] = .claim name) ∧ escape (takenAt scope calls i) = x := by
  rw [ident?, takenAt]
  cases calls[i] with
  | reserve name => simp
  | claim name => simp [claim, takes]

theorem takenAt_not_mem {i : Fin calls.length} (hi : ∃ name, calls[i] = .claim name) :
    takenAt scope calls i ∉ (scope.after (calls.take i)).taken := by
  obtain ⟨name, hname⟩ := hi
  rw [takenAt, hname]
  exact free_not_mem _ _

/-- Claims take different identifiers. -/
theorem takenAt_ne {i j : Fin calls.length} (hi : ∃ name, calls[i] = .claim name)
    (hj : ∃ name, calls[j] = .claim name) (hij : i ≠ j) :
    takenAt scope calls i ≠ takenAt scope calls j := by
  intro h
  rcases lt_or_gt_of_ne hij with hlt | hgt
  · exact takenAt_not_mem hj (h ▸ takenAt_mem hlt)
  · exact takenAt_not_mem hi (h ▸ takenAt_mem hgt)

/-- A reserved name is in use. -/
theorem ReservedBefore.mem_taken {i : Fin calls.length} {x : String}
    (h : ReservedBefore scope calls i x) : x ∈ (scope.after (calls.take i)).taken := by
  rcases h with hx | ⟨n, hn, hcall⟩
  · refine List.foldlRecOn (motive := fun s : Scope ↦ x ∈ s.taken) _ perform hx fun s hs c _ ↦ ?_
    rw [taken_perform]
    exact List.mem_cons_of_mem _ hs
  · have htakes : takenAt scope calls n = x := by rw [takenAt, hcall, takes]
    exact htakes ▸ takenAt_mem hn

/-- A claim takes what does not end in a digit if it is the first to ask for it. -/
theorem claimsFirst_iff {i : Fin calls.length} {x : String} (hx : endsInDigit x = false) :
    ClaimsFirst scope calls i x ↔
      (∃ name, calls[i] = .claim name) ∧ takenAt scope calls i = x := by
  refine and_congr_right fun ⟨name, hname⟩ ↦ ?_
  have hbefore : x ∉ (scope.after (calls.take i)).taken ↔
      x ∉ scope.taken ∧ ∀ h < i, calls[h].asks scope.convention ≠ x := by
    rw [mem_taken_after_iff hx, not_or]
    refine and_congr_right fun _ ↦ ⟨fun h n hn hasks ↦ ?_, fun h ⟨c, hc, hasks⟩ ↦ ?_⟩
    · exact h ⟨calls[n], List.mem_take_iff_getElem.2 ⟨n, by omega, rfl⟩, hasks⟩
    · obtain ⟨n, hn, rfl⟩ := exists_lt_of_mem_take hc
      exact h n hn hasks
  rw [takenAt, hname, takes, free_eq_iff hx, convention_after, hbefore, Call.asks]

/-! ## Collisions -/

theorem endsInDigit_of_keyword {k : String} (h : k ∈ plainKeywords ++ rawKeywords) :
    endsInDigit k = false ∧ endsInDigit (escape k) = false := by
  revert k
  decide +kernel

/-- No name becomes a raw identifier by casing. -/
theorem asks_ne_of_mem_rawKeywords {name k : String} (hname : isName name = true)
    (hk : k ∈ rawKeywords) (convention : Case) : convention.apply name ≠ escape k := by
  intro h
  have hmark : '#' ∈ (convention.apply name).toList := by
    rw [h, escape_of_mem_rawKeywords hk, String.toList_append]
    exact List.mem_append_left _ (by decide)
  exact absurd (convention.isNameChar_apply hname _ hmark) (by decide)

theorem ident?_of_claimsFirst {i : Fin calls.length} {k : String}
    (hk : k ∈ plainKeywords ++ rawKeywords) (h : ClaimsFirst scope calls i k) :
    scope.ident? calls i = some (escape k) := by
  obtain ⟨hi, htaken⟩ := (claimsFirst_iff (endsInDigit_of_keyword hk).1).1 h
  exact ident?_eq_some_iff.2 ⟨hi, by rw [htaken]⟩

theorem Crossed.ident?_eq {i j : Fin calls.length} {x : String} (h : Crossed scope calls i j x) :
    scope.ident? calls i = some x ∧ scope.ident? calls j = some x := by
  obtain ⟨k, hplain, rfl, hi, hj⟩ := h
  have hk : k ∈ plainKeywords ++ rawKeywords := List.mem_append_left _ hplain
  rw [← escape_of_mem_plainKeywords hplain] at hj ⊢
  obtain ⟨hjclaim, htaken⟩ := (claimsFirst_iff (endsInDigit_of_keyword hk).2).1 hj
  exact ⟨ident?_of_claimsFirst hk hi,
    ident?_eq_some_iff.2 ⟨hjclaim, by rw [htaken, escape_of_keyword hk]⟩⟩

/-- If one claim takes a keyword and another what the keyword is escaped to, then the keyword has
no raw spelling. -/
theorem crossed_of_takenAt (hnames : ∀ c ∈ calls, c.isOfName = true)
    {i j : Fin calls.length} (hi : ∃ name, calls[i] = .claim name)
    (hj : ∃ name, calls[j] = .claim name)
    (hk : takenAt scope calls i ∈ plainKeywords ++ rawKeywords)
    (h : takenAt scope calls j = escape (takenAt scope calls i)) :
    Crossed scope calls i j (escape (takenAt scope calls i)) := by
  obtain ⟨hdigit, hdigit'⟩ := endsInDigit_of_keyword hk
  have hjfirst := (claimsFirst_iff hdigit').2 ⟨hj, h⟩
  have hplain : takenAt scope calls i ∈ plainKeywords := by
    refine (List.mem_append.1 hk).resolve_right fun hraw ↦ ?_
    obtain ⟨name, hname⟩ := hj
    have hasks := hjfirst.2.1
    rw [hname, Call.asks] at hasks
    have hofName : (Call.claim name).isOfName = true := hnames _ (hname ▸ List.getElem_mem _)
    exact asks_ne_of_mem_rawKeywords hofName hraw _ hasks
  exact ⟨_, hplain, escape_of_mem_plainKeywords hplain, (claimsFirst_iff hdigit).2 ⟨hi, rfl⟩,
    hjfirst⟩

/-- **Two claims of names get one identifier exactly if one of them is the first to claim a keyword
without a raw spelling, and the other the first to claim that word with an underscore at its end.**
A claim gets a reserved identifier exactly if it is the first to claim a keyword whose escaped
spelling that is. -/
theorem idents_collide_iff (scope : Scope) (calls : List Call)
    (hnames : ∀ c ∈ calls, c.isOfName = true) :
    (∀ i j x, i ≠ j → (scope.ident? calls i = some x ∧ scope.ident? calls j = some x ↔
        Crossed scope calls i j x ∨ Crossed scope calls j i x))
      ∧ ∀ i x, ReservedBefore scope calls i x → (scope.ident? calls i = some x ↔
        ∃ k ∈ plainKeywords ++ rawKeywords, x = escape k ∧ ClaimsFirst scope calls i k) := by
  constructor
  · intro i j x hij
    constructor
    · rintro ⟨hident, hident'⟩
      obtain ⟨hi, rfl⟩ := ident?_eq_some_iff.1 hident
      obtain ⟨hj, hescape⟩ := ident?_eq_some_iff.1 hident'
      rcases escape_eq_escape_iff.1 hescape with h | ⟨hk, h⟩ | ⟨hk, h⟩
      · exact absurd h.symm (takenAt_ne hi hj hij)
      · exact .inr (hescape ▸ crossed_of_takenAt hnames hj hi hk h)
      · exact .inl (crossed_of_takenAt hnames hi hj hk h)
    · rintro (h | h)
      · exact h.ident?_eq
      · exact h.ident?_eq.symm
  · intro i x hx
    constructor
    · intro h
      obtain ⟨hi, hescape⟩ := ident?_eq_some_iff.1 h
      have hne : takenAt scope calls i ≠ x := fun h ↦ takenAt_not_mem hi (h ▸ hx.mem_taken)
      have hk : takenAt scope calls i ∈ plainKeywords ++ rawKeywords := by
        by_contra hk
        rw [List.mem_append, not_or] at hk
        exact hne ((escape_of_not_mem hk.1 hk.2).symm.trans hescape)
      have hdigit := (endsInDigit_of_keyword hk).1
      exact ⟨_, hk, hescape.symm, (claimsFirst_iff hdigit).2 ⟨hi, rfl⟩⟩
    · rintro ⟨k, hk, rfl, hfirst⟩
      exact ident?_of_claimsFirst hk hfirst

/-- The scope in which `crate_` is reserved. -/
def crossedScope : Scope :=
  ofReserved .snake ["crate_"]

/-- Claims of keywords and of other names, with a reservation among them. -/
def crossedClaims : List Call :=
  [.claim "userName", .claim "Self", .reserve "self", .claim "self", .claim "user_name",
    .claim "type", .claim "crate", .claim "self_"]

/-- Here `Self` and `self_` get one identifier, and `crate` gets the reserved one. -/
theorem idents_collide_iff_crossedClaims :
    (∀ c ∈ crossedClaims, c.isOfName = true)
      ∧ (List.finRange _).map (crossedScope.ident? crossedClaims)
        = [some "user_name", some "self_", none, some "self_2", some "user_name_2",
          some "r#type", some "crate_", some "self_"]
      ∧ (∀ i j x, i ≠ j →
        (crossedScope.ident? crossedClaims i = some x ∧ crossedScope.ident? crossedClaims j = some x
          ↔ Crossed crossedScope crossedClaims i j x ∨ Crossed crossedScope crossedClaims j i x))
      ∧ ∀ i x, ReservedBefore crossedScope crossedClaims i x →
        (crossedScope.ident? crossedClaims i = some x ↔
          ∃ k ∈ plainKeywords ++ rawKeywords, x = escape k
            ∧ ClaimsFirst crossedScope crossedClaims i k) := by
  have hnames : ∀ c ∈ crossedClaims, c.isOfName = true := by decide
  exact ⟨hnames, by decide, idents_collide_iff crossedScope crossedClaims hnames⟩

/-- Claims may get one identifier: `self` is escaped to what `self_` is as it stands. -/
theorem ident_shared_with_keyword :
    ¬ ∀ (convention : Case) (reserved : List String) (calls : List Call),
      (∀ c ∈ calls, c.isOfName = true) →
      (∀ i j x, i ≠ j → (ofReserved convention reserved).ident? calls i = some x →
          (ofReserved convention reserved).ident? calls j ≠ some x)
        ∧ ∀ i x, ReservedBefore (ofReserved convention reserved) calls i x →
          (ofReserved convention reserved).ident? calls i ≠ some x := by
  intro h
  have hclaims := (h .snake [] [.claim "self", .claim "self_"] (by decide)).1 0 1 "self_"
  exact hclaims (by decide) (by decide) (by decide)

end Scope

end Name
end QueryBuilder
