/-
  PlanScaffold/Proofs/Config/Grammar.lean
  =======================================
  **What a configuration may say, and what is the matter with any other document.**

  Which documents are configurations, and of which policy, is told by three relations, one inside
  the other: a value is a policy (`PolicyIs`), the value of `tokens` holds one (`TokensIs`), and a
  table has no key but one, whose value says what is wanted (`OnlyKey`).

  Beside them stand the misfits (`PolicyMisfit`, `TokensMisfit`, `KeyMisfit`), each with its
  position: the numbers of the entries and elements that lead to it.  Positions are compared as in a
  dictionary: a key comes before all that is in its value, and that comes before the next key of the
  same table.  It is the order in which tables keep their entries, and not always that of the text.  A
  table keeps its place when something is added to it further down, so a misfit there is reported
  before others that are written above it (`parse_reports_later_misfit`).

  What is read from a value always settles the matter (`Settles`).  It is the policy that the value
  denotes, and then there is no misfit at all; or it is the first misfit, and then nothing is
  denoted.  Tables need to have their keys only once for this, which is so in every document.
-/
import Mathlib
import PlanScaffold.Config
import PlanScaffold.Proofs.Toml.DistinctKeys

namespace PlanScaffold

open Toml

/-! ### What is denoted -/

def EmptyTokens.name : EmptyTokens → String
  | .preserve => "preserve"
  | .collapse => "collapse"

/-- A table or an array with nothing in it. -/
inductive Toml.Value.IsEmpty : Value → Prop where
  | table (origin : Origin) : IsEmpty (.table origin [])
  | array : IsEmpty (.array [])
  | tables : IsEmpty (.tables [])

/-- The elements of an array.  Those of an array of tables are tables. -/
def Toml.Value.elements? : Value → Option (List Value)
  | .array items => some items
  | .tables items => some (items.map (.table .header))
  | _ => none

namespace Config

/-- The value is a policy: its name, or a table with its name as the only key and nothing in it. -/
inductive PolicyIs : Value → EmptyTokens → Prop where
  | named {name : String} {policy : EmptyTokens} (hname : policy.name = name) :
    PolicyIs (.scalar (.string name)) policy
  | keyed (origin : Origin) {name : String} {policy : EmptyTokens} {argument : Value}
    (hname : policy.name = name) (hargument : argument.IsEmpty) :
    PolicyIs (.table origin [(name, argument)]) policy

/-- The table has no other key than this one.  Its value is as wanted, or else empty tokens are
    kept. -/
structure OnlyKey (key : String) (wanted : Value → EmptyTokens → Prop) (entries : Entries)
    (policy : EmptyTokens) : Prop where
  keys : ∀ entry ∈ entries, entry.1 = key
  absent : entries.get? key = none → policy = .preserve
  present : ∀ value, entries.get? key = some value → wanted value policy

/-- The value of `tokens` holds the policy: under the key `empty` of a table, or as the first
    element of an array. -/
inductive TokensIs : Value → EmptyTokens → Prop where
  | table (origin : Origin) {entries : Entries} {policy : EmptyTokens}
    (hentries : OnlyKey "empty" PolicyIs entries policy) : TokensIs (.table origin entries) policy
  | nothing {value : Value} (helements : value.elements? = some []) : TokensIs value .preserve
  | first {value element : Value} {rest : List Value} {policy : EmptyTokens}
    (helements : value.elements? = some (element :: rest)) (helement : PolicyIs element policy) :
    TokensIs value policy

/-- The document is a configuration with this policy. -/
def Denotes (entries : Entries) (policy : EmptyTokens) : Prop :=
  OnlyKey "tokens" TokensIs entries policy

/-! ### Misfits and their positions -/

/-- Where something stands in a value: the numbers of the entries and elements that lead there. -/
abbrev Position := List Nat

/-- What is the matter with the value that a policy's name has as a key. -/
def argumentMisfit : Value → Misfit
  | .table _ _ | .array _ => .argumentNotEmptyTable
  | .tables _ => .argumentNotEmptyArray
  | .scalar found => .argumentShape found

/-- What is the matter with a value that should be a policy. -/
inductive PolicyMisfit : Value → Position → Misfit → Prop where
  | name {name : String} (hname : ∀ policy : EmptyTokens, policy.name ≠ name) :
    PolicyMisfit (.scalar (.string name)) [] (.unknownPolicy name)
  | shape {value : Value} (hstring : ∀ name, value ≠ .scalar (.string name))
    (htable : ∀ origin entries, value ≠ .table origin entries) : PolicyMisfit value [] .policyShape
  | noKey (origin : Origin) : PolicyMisfit (.table origin []) [] .policyWithoutKey
  | manyKeys (origin : Origin) {entries : Entries} (hentries : 1 < entries.length) :
    PolicyMisfit (.table origin entries) [] .policyWithManyKeys
  | key (origin : Origin) {name : String} {argument : Value}
    (hname : ∀ policy : EmptyTokens, policy.name ≠ name) :
    PolicyMisfit (.table origin [(name, argument)]) [0] (.unknownPolicy name)
  | argument (origin : Origin) {name : String} {argument : Value} (hargument : ¬argument.IsEmpty) :
    PolicyMisfit (.table origin [(name, argument)]) [0, 0] (argumentMisfit argument)

/-- What is the matter with a table in which only one key may stand. -/
inductive KeyMisfit (expected : String) (misfits : Value → Position → Misfit → Prop)
    (entries : Entries) : Position → Misfit → Prop where
  | key {index : Nat} {key : String} {value : Value} (hentry : entries[index]? = some (key, value))
    (hkey : key ≠ expected) : KeyMisfit expected misfits entries [index] (.unknownKey key expected)
  | value {index : Nat} {value : Value} {position : Position} {misfit : Misfit}
    (hentry : entries[index]? = some (expected, value)) (hmisfit : misfits value position misfit) :
    KeyMisfit expected misfits entries (index :: position) misfit

/-- What is the matter with the value of `tokens`.  A date or time has a key of its own, which is
    not known here. -/
inductive TokensMisfit : Value → Position → Misfit → Prop where
  | table (origin : Origin) {entries : Entries} {position : Position} {misfit : Misfit}
    (hmisfit : KeyMisfit "empty" PolicyMisfit entries position misfit) :
    TokensMisfit (.table origin entries) position misfit
  | first {value element : Value} {rest : List Value} {position : Position} {misfit : Misfit}
    (helements : value.elements? = some (element :: rest))
    (hmisfit : PolicyMisfit element position misfit) : TokensMisfit value (0 :: position) misfit
  | moment : TokensMisfit (.scalar .moment) [] (.unknownKey momentKey "empty")
  | shape {found : Scalar} (hfound : found ≠ .moment) :
    TokensMisfit (.scalar found) [] (.tokensShape found)

/-- What is the matter with a document that should be a configuration. -/
def MisfitAt (entries : Entries) : Position → Misfit → Prop :=
  KeyMisfit "tokens" TokensMisfit entries

/-- Of some misfits, the one that comes before all others. -/
def IsFirst (misfits : Position → Misfit → Prop) (misfit : Misfit) : Prop :=
  ∃ position, misfits position misfit ∧
    ∀ other cause, misfits other cause → position < other ∨ other = position ∧ cause = misfit

/-! ### Reading settles the matter -/

/-- The result is the policy that is denoted, and there is nothing the matter; or it is the first
    misfit, and nothing is denoted. -/
def Settles (denoted : EmptyTokens → Prop) (misfits : Position → Misfit → Prop) :
    Except Misfit EmptyTokens → Prop
  | .ok policy => (∀ other, denoted other ↔ other = policy) ∧
    ∀ position misfit, ¬misfits position misfit
  | .error misfit => (∀ policy, ¬denoted policy) ∧ IsFirst misfits misfit

theorem name_injective {policy other : EmptyTokens} (hname : policy.name = other.name) :
    policy = other := by
  cases policy <;> cases other <;> first | rfl | exact absurd hname (by decide)

theorem policyNamed_name (policy : EmptyTokens) : policyNamed policy.name = .ok policy := by
  cases policy <;> rfl

theorem policyNamed_of_ne {name : String} (hname : ∀ policy : EmptyTokens, policy.name ≠ name) :
    policyNamed name = .error (.unknownPolicy name) := by
  have hpreserve : name ≠ "preserve" := (hname .preserve).symm
  have hcollapse : name ≠ "collapse" := (hname .collapse).symm
  rw [policyNamed, if_neg hpreserve, if_neg hcollapse]

theorem checkArgument_of_isEmpty {argument : Value} (hargument : argument.IsEmpty) :
    checkArgument argument = .ok () := by
  cases hargument <;> rfl

theorem checkArgument_of_not_isEmpty {argument : Value} (hargument : ¬argument.IsEmpty) :
    checkArgument argument = .error (argumentMisfit argument) := by
  fun_cases checkArgument argument with
  | case1 origin => exact absurd (.table origin) hargument
  | case2 => exact absurd .array hargument
  | case3 => exact absurd .tables hargument
  | case4 | case5 | case6 | case7 => rfl

/-- A misfit at the value itself comes first, if it is the only one there. -/
theorem isFirst_nil {misfits : Position → Misfit → Prop} {misfit : Misfit}
    (hmisfit : misfits [] misfit) (honly : ∀ cause, misfits [] cause → cause = misfit) :
    IsFirst misfits misfit := by
  refine ⟨[], hmisfit, fun other cause hother => ?_⟩
  cases other with
  | nil => exact .inr ⟨rfl, honly cause hother⟩
  | cons index position => exact .inl (List.nil_lt_cons index position)

theorem IsFirst.unique {misfits : Position → Misfit → Prop} {misfit other : Misfit}
    (hmisfit : IsFirst misfits misfit) (hother : IsFirst misfits other) : misfit = other := by
  obtain ⟨position, hposition, hfirst⟩ := hmisfit
  obtain ⟨position', hposition', hfirst'⟩ := hother
  rcases hfirst position' other hposition' with hbehind | ⟨-, rfl⟩
  · rcases hfirst' position misfit hposition with hbefore | ⟨-, rfl⟩
    · exact absurd hbefore (List.lt_asymm hbehind)
    · rfl
  · rfl

theorem settles_string (name : String) :
    Settles (PolicyIs (.scalar (.string name))) (PolicyMisfit (.scalar (.string name)))
      (policyNamed name) := by
  by_cases hnamed : ∃ policy : EmptyTokens, policy.name = name
  · obtain ⟨policy, hname⟩ := hnamed
    rw [← hname, policyNamed_name, hname]
    refine ⟨fun other => ⟨?_, ?_⟩, ?_⟩
    · rintro (hother | _)
      exact name_injective (hother.trans hname.symm)
    · rintro rfl
      exact .named hname
    · rintro position misfit (hother | hother)
      · exact hother policy hname
      · exact hother name rfl
  · have hname := not_exists.mp hnamed
    rw [policyNamed_of_ne hname]
    refine ⟨?_, isFirst_nil (.name hname) ?_⟩
    · rintro policy (hpolicy | _)
      exact hname policy hpolicy
    · rintro cause (_ | hstring)
      · rfl
      · exact absurd rfl (hstring name)

theorem settles_keyed (origin : Origin) (name : String) (argument : Value) :
    Settles (PolicyIs (.table origin [(name, argument)]))
      (PolicyMisfit (.table origin [(name, argument)]))
      (policyOf (.table origin [(name, argument)])) := by
  have hbehind : ([0] : Position) < [0, 0] := by decide
  by_cases hnamed : ∃ policy : EmptyTokens, policy.name = name
  · obtain ⟨policy, hname⟩ := hnamed
    by_cases hargument : argument.IsEmpty
    · rw [policyOf, ← hname, policyNamed_name, checkArgument_of_isEmpty hargument, hname]
      refine ⟨fun other => ⟨?_, ?_⟩, ?_⟩
      · rintro (_ | ⟨_, hother, _⟩)
        exact name_injective (hother.trans hname.symm)
      · rintro rfl
        exact .keyed origin hname hargument
      · rintro position misfit (_ | ⟨-, htable⟩ | _ | ⟨_, hmany⟩ | ⟨_, hother⟩ | ⟨_, hother⟩)
        · exact htable _ _ rfl
        · simp at hmany
        · exact hother policy hname
        · exact hother hargument
    · rw [policyOf, ← hname, policyNamed_name, checkArgument_of_not_isEmpty hargument, hname]
      refine ⟨?_, [0, 0], .argument origin hargument, ?_⟩
      · rintro other (_ | ⟨_, _, hother⟩)
        exact hargument hother
      · rintro position cause (_ | ⟨-, htable⟩ | _ | ⟨_, hmany⟩ | ⟨_, hother⟩ | _)
        · exact absurd rfl (htable _ _)
        · simp at hmany
        · exact absurd hname (hother policy)
        · exact .inr ⟨rfl, rfl⟩
  · have hname := not_exists.mp hnamed
    rw [policyOf, policyNamed_of_ne hname]
    refine ⟨?_, [0], .key origin hname, ?_⟩
    · rintro policy (_ | ⟨_, hpolicy, _⟩)
      exact hname policy hpolicy
    · rintro position cause (_ | ⟨-, htable⟩ | _ | ⟨_, hmany⟩ | _ | _)
      · exact absurd rfl (htable _ _)
      · simp at hmany
      · exact .inr ⟨rfl, rfl⟩
      · exact .inl hbehind

theorem settles_policyOf (value : Value) :
    Settles (PolicyIs value) (PolicyMisfit value) (policyOf value) := by
  fun_cases policyOf value with
  | case1 name => exact settles_string name
  | case2 origin =>
    refine ⟨?_, isFirst_nil (.noKey origin) ?_⟩
    · rintro policy ⟨⟩
    · rintro cause (_ | ⟨-, htable⟩ | _ | ⟨_, hmany⟩)
      · exact absurd rfl (htable _ _)
      · rfl
      · simp at hmany
  | case3 origin name argument => exact settles_keyed origin name argument
  | case4 origin first second rest =>
    refine ⟨?_, isFirst_nil (.manyKeys origin (by simp)) ?_⟩
    · rintro policy ⟨⟩
    · rintro cause (_ | ⟨-, htable⟩ | _ | _)
      · exact absurd rfl (htable _ _)
      · rfl
  | case5 value hstring hnone hone hmany =>
    have htable : ∀ origin entries, value ≠ .table origin entries := by
      rintro origin (_ | ⟨entry, _ | ⟨second, rest⟩⟩) rfl
      · exact hnone origin rfl
      · exact hone origin entry.1 entry.2 rfl
      · exact hmany origin entry second rest rfl
    refine ⟨?_, isFirst_nil (.shape hstring htable) ?_⟩
    · rintro policy (_ | ⟨origin, _⟩)
      · exact hstring _ rfl
      · exact htable origin _ rfl
    · rintro cause (_ | _ | ⟨origin⟩ | ⟨origin, _⟩)
      · exact absurd rfl (hstring _)
      · rfl
      · exact absurd rfl (htable origin [])
      · exact absurd rfl (htable origin _)

/-! ### Tables with one key -/

section OneKey

variable {key : String} {wanted : Value → EmptyTokens → Prop}
  {misfits : Value → Position → Misfit → Prop} {read : Value → Except Misfit EmptyTokens}
  {value : Value} {entries : Entries}

theorem onlyKey_nil_iff {policy : EmptyTokens} :
    OnlyKey key wanted [] policy ↔ policy = .preserve := by
  constructor
  · exact fun honly => honly.absent rfl
  · rintro rfl
    exact ⟨by simp, fun _ => rfl, fun value hvalue => by cases hvalue⟩

theorem onlyKey_singleton_iff {policy : EmptyTokens} :
    OnlyKey key wanted [(key, value)] policy ↔ wanted value policy := by
  have hfound : Entries.get? [(key, value)] key = some value := by simp [Entries.get?]
  constructor
  · exact fun honly => honly.present value hfound
  · intro hvalue
    refine ⟨by simp, fun habsent => ?_, fun other hother => ?_⟩
    · rw [hfound] at habsent
      cases habsent
    · rw [hfound] at hother
      cases hother
      exact hvalue

theorem not_onlyKey_of_mem {entry : String × Value} (hentry : entry ∈ entries)
    (hkey : entry.1 ≠ key) (policy : EmptyTokens) : ¬OnlyKey key wanted entries policy :=
  fun honly => hkey (honly.keys entry hentry)

theorem keyMisfit_index_iff {index : Nat} {position : Position} {misfit : Misfit} :
    KeyMisfit key misfits entries (index :: position) misfit ↔
      ∃ entry, entries[index]? = some entry ∧
        (entry.1 ≠ key ∧ position = [] ∧ misfit = .unknownKey entry.1 key ∨
          entry.1 = key ∧ misfits entry.2 position misfit) := by
  constructor
  · rintro (⟨hentry, hkey⟩ | ⟨hentry, hmisfit⟩)
    · exact ⟨_, hentry, .inl ⟨hkey, rfl, rfl⟩⟩
    · exact ⟨_, hentry, .inr ⟨rfl, hmisfit⟩⟩
  · rintro ⟨⟨_, value⟩, hentry, ⟨hkey, rfl, rfl⟩ | ⟨rfl, hmisfit⟩⟩
    · exact .key hentry hkey
    · exact .value hentry hmisfit

/-- Nothing is the matter before some entry, so the first thing that is the matter there is the
    first of all. -/
theorem isFirst_of_index {index : Nat} {position : Position} {misfit : Misfit}
    (hbefore : ∀ earlier < index, ∀ other cause,
      ¬KeyMisfit key misfits entries (earlier :: other) cause)
    (hmisfit : KeyMisfit key misfits entries (index :: position) misfit)
    (hfirst : ∀ other cause, KeyMisfit key misfits entries (index :: other) cause →
      position < other ∨ other = position ∧ cause = misfit) :
    IsFirst (KeyMisfit key misfits entries) misfit := by
  have hall : ∀ number other cause, KeyMisfit key misfits entries (number :: other) cause →
      index :: position < number :: other ∨
        number :: other = index :: position ∧ cause = misfit := by
    intro number other cause hother
    rcases Nat.lt_trichotomy number index with hearlier | rfl | hlater
    · exact absurd hother (hbefore number hearlier other cause)
    · rcases hfirst other cause hother with hbehind | ⟨rfl, rfl⟩
      · exact .inl (List.cons_lt_cons_self.mpr hbehind)
      · exact .inr ⟨rfl, rfl⟩
    · exact .inl (List.cons_lt_cons_iff.mpr (.inl hlater))
  refine ⟨index :: position, hmisfit, fun other cause hother => ?_⟩
  cases hother with
  | key hentry hkey => exact hall _ _ _ (.key hentry hkey)
  | value hentry hcause => exact hall _ _ _ (.value hentry hcause)

/-- The first key that may not stand there, where nothing is the matter before it. -/
theorem isFirst_unknownKey {index : Nat} {other : String}
    (hbefore : ∀ earlier < index, ∀ position cause,
      ¬KeyMisfit key misfits entries (earlier :: position) cause)
    (hentry : entries[index]? = some (other, value)) (hother : other ≠ key) :
    IsFirst (KeyMisfit key misfits entries) (.unknownKey other key) := by
  refine isFirst_of_index hbefore (.key hentry hother) fun position cause hcause => ?_
  obtain ⟨entry, hfound, hcase⟩ := keyMisfit_index_iff.mp hcause
  obtain rfl : (other, value) = entry := Option.some.inj (hentry.symm.trans hfound)
  rcases hcase with ⟨-, rfl, rfl⟩ | ⟨hkey, -⟩
  · exact .inr ⟨rfl, rfl⟩
  · exact absurd hkey hother

theorem misfits_of_keyMisfit_zero {rest : Entries} {position : Position} {cause : Misfit}
    (hcause : KeyMisfit key misfits ((key, value) :: rest) (0 :: position) cause) :
    misfits value position cause := by
  obtain ⟨entry, hentry, hcase⟩ := keyMisfit_index_iff.mp hcause
  obtain rfl : (key, value) = entry := Option.some.inj hentry
  rcases hcase with ⟨hkey, -, -⟩ | ⟨-, hmisfit⟩
  · exact absurd rfl hkey
  · exact hmisfit

theorem settles_of_first_value {rest : Entries} {misfit : Misfit}
    (hvalue : Settles (wanted value) (misfits value) (.error misfit)) :
    Settles (OnlyKey key wanted ((key, value) :: rest))
      (KeyMisfit key misfits ((key, value) :: rest)) (.error misfit) := by
  obtain ⟨hnothing, position, hmisfit, hfirst⟩ := hvalue
  refine ⟨fun policy honly => ?_, ?_⟩
  · exact hnothing policy (honly.present value (by simp [Entries.get?]))
  · exact isFirst_of_index (fun _ hearlier => absurd hearlier (Nat.not_lt_zero _))
      (.value rfl hmisfit) fun other cause hcause =>
        hfirst other cause (misfits_of_keyMisfit_zero hcause)

theorem settles_underKey_rest {rest : Entries} {policy : EmptyTokens}
    (hkeys : key ∉ rest.map Prod.fst)
    (hvalue : Settles (wanted value) (misfits value) (.ok policy)) :
    Settles (OnlyKey key wanted ((key, value) :: rest))
      (KeyMisfit key misfits ((key, value) :: rest)) (underKey key read policy rest) := by
  obtain ⟨honly, hnone⟩ := hvalue
  have hclean : ∀ position cause,
      ¬KeyMisfit key misfits ((key, value) :: rest) (0 :: position) cause :=
    fun position cause hcause => hnone position cause (misfits_of_keyMisfit_zero hcause)
  cases rest with
  | nil =>
    refine ⟨fun _ => onlyKey_singleton_iff.trans (honly _), ?_⟩
    rintro (_ | ⟨_ | index, position⟩) cause hcause
    · cases hcause
    · exact hclean position cause hcause
    · obtain ⟨entry, hentry, -⟩ := keyMisfit_index_iff.mp hcause
      cases hentry
  | cons second rest =>
    have hsecond : second.1 ≠ key := by
      rintro rfl
      simp at hkeys
    have hentry : ((key, value) :: second :: rest)[1]? = some (second.1, second.2) := rfl
    rw [underKey, if_neg hsecond]
    refine ⟨not_onlyKey_of_mem (List.mem_of_getElem? hentry) hsecond, ?_⟩
    refine isFirst_unknownKey ?_ hentry hsecond
    intro earlier hearlier
    obtain rfl : earlier = 0 := by omega
    exact hclean

theorem settles_underKey (hkeys : (entries.map Prod.fst).Nodup)
    (hread : ∀ value, (key, value) ∈ entries →
      Settles (wanted value) (misfits value) (read value)) :
    Settles (OnlyKey key wanted entries) (KeyMisfit key misfits entries)
      (underKey key read .preserve entries) := by
  cases entries with
  | nil =>
    refine ⟨fun _ => onlyKey_nil_iff, ?_⟩
    rintro _ _ (⟨hentry, -⟩ | ⟨hentry, -⟩) <;> cases hentry
  | cons entry rest =>
    obtain ⟨other, value⟩ := entry
    by_cases hother : other = key
    · subst hother
      have hvalue := hread value List.mem_cons_self
      rw [underKey, if_pos rfl]
      cases hresult : read value with
      | error misfit =>
        rw [hresult] at hvalue
        exact settles_of_first_value hvalue
      | ok policy =>
        rw [hresult] at hvalue
        exact settles_underKey_rest (List.nodup_cons.mp hkeys).1 hvalue
    · rw [underKey, if_neg hother]
      exact ⟨not_onlyKey_of_mem List.mem_cons_self hother,
        isFirst_unknownKey (fun _ hearlier => absurd hearlier (Nat.not_lt_zero _)) rfl hother⟩

end OneKey

/-! ### The whole document -/

theorem tokensIs_table (origin : Origin) (entries : Entries) :
    TokensIs (.table origin entries) = OnlyKey "empty" PolicyIs entries := by
  funext policy
  apply propext
  constructor
  · rintro (⟨_, hentries⟩ | ⟨⟨⟩⟩ | ⟨⟨⟩, _⟩)
    exact hentries
  · exact .table origin

theorem tokensMisfit_table (origin : Origin) (entries : Entries) :
    TokensMisfit (.table origin entries) = KeyMisfit "empty" PolicyMisfit entries := by
  funext position misfit
  apply propext
  constructor
  · rintro (⟨_, hmisfit⟩ | ⟨⟨⟩, _⟩)
    exact hmisfit
  · exact .table origin

/-- Nothing is the matter with an empty array, which says nothing. -/
theorem settles_noElements {value : Value} (helements : value.elements? = some []) :
    Settles (TokensIs value) (TokensMisfit value) (.ok .preserve) := by
  refine ⟨fun other => ⟨?_, ?_⟩, ?_⟩
  · rintro (_ | _ | ⟨hother, _⟩)
    · cases helements
    · rfl
    · rw [helements] at hother
      cases hother
  · rintro rfl
    exact .nothing helements
  · rintro position misfit (_ | ⟨hother, _⟩ | _ | _)
    · cases helements
    · rw [helements] at hother
      cases hother
    · cases helements
    · cases helements

/-- An array is settled by its first element. -/
theorem settles_firstElement {value element : Value} {rest : List Value}
    (helements : value.elements? = some (element :: rest)) :
    Settles (TokensIs value) (TokensMisfit value) (policyOf element) := by
  have hdenoted : ∀ policy, TokensIs value policy ↔ PolicyIs element policy := by
    intro policy
    constructor
    · rintro (_ | hother | ⟨hother, helement⟩)
      · cases helements
      · rw [helements] at hother
        cases hother
      · rw [helements] at hother
        cases hother
        exact helement
    · exact .first helements
  have hmisfits : ∀ position misfit, TokensMisfit value position misfit →
      ∃ inner, position = 0 :: inner ∧ PolicyMisfit element inner misfit := by
    rintro position misfit (_ | ⟨hother, hmisfit⟩ | _ | _)
    · cases helements
    · rw [helements] at hother
      cases hother
      exact ⟨_, rfl, hmisfit⟩
    · cases helements
    · cases helements
  have helement := settles_policyOf element
  cases hresult : policyOf element with
  | ok policy =>
    rw [hresult] at helement
    obtain ⟨honly, hnone⟩ := helement
    refine ⟨fun other => (hdenoted other).trans (honly other), fun position misfit hmisfit => ?_⟩
    obtain ⟨inner, -, hinner⟩ := hmisfits position misfit hmisfit
    exact hnone inner misfit hinner
  | error misfit =>
    rw [hresult] at helement
    obtain ⟨hnothing, position, hmisfit, hfirst⟩ := helement
    refine ⟨fun policy hpolicy => hnothing policy ((hdenoted policy).mp hpolicy), 0 :: position,
      .first helements hmisfit, fun other cause hcause => ?_⟩
    obtain ⟨inner, rfl, hinner⟩ := hmisfits other cause hcause
    rcases hfirst inner cause hinner with hbehind | ⟨rfl, rfl⟩
    · exact .inl (List.cons_lt_cons_self.mpr hbehind)
    · exact .inr ⟨rfl, rfl⟩

theorem settles_policyOfTokens {value : Value} (hvalue : value.WellKeyed) :
    Settles (TokensIs value) (TokensMisfit value) (policyOfTokens value) := by
  fun_cases policyOfTokens value with
  | case1 origin entries =>
    rw [tokensIs_table, tokensMisfit_table]
    exact settles_underKey (Value.wellKeyed_table_iff.mp hvalue).keys
      fun value _ => settles_policyOf value
  | case2 => exact settles_noElements rfl
  | case3 => exact settles_noElements rfl
  | case4 first rest => exact settles_firstElement rfl
  | case5 first rest => exact settles_firstElement rfl
  | case6 =>
    refine ⟨?_, isFirst_nil .moment ?_⟩
    · rintro policy (_ | ⟨⟨⟩⟩ | ⟨⟨⟩, _⟩)
    · rintro cause (⟨⟩ | ⟨⟨⟩, _⟩ | _ | hfound)
      · rfl
      · exact absurd rfl hfound
  | case7 found hfound =>
    refine ⟨?_, isFirst_nil (.shape hfound) ?_⟩
    · rintro policy (_ | ⟨⟨⟩⟩ | ⟨⟨⟩, _⟩)
    · rintro cause (⟨⟩ | ⟨⟨⟩, _⟩ | _ | _)
      · exact absurd rfl hfound
      · rfl

theorem settles_ofEntries {entries : Entries} (hentries : entries.WellKeyed) :
    Settles (Denotes entries) (MisfitAt entries)
      (underKey "tokens" policyOfTokens .preserve entries) :=
  settles_underKey hentries.keys fun _ hvalue => settles_policyOfTokens (hentries.values _ hvalue)

theorem parse_of_document? {text : String} {entries : Entries}
    (hdocument : document? text = some entries) :
    parse text = (ofEntries entries).mapError .misfit := by
  rw [parse, hdocument]

/-- **A document is a configuration exactly when it follows the grammar.**  It then has the policy
    that it denotes, and there is nothing the matter with it.  Any other document is refused for its
    first misfit in the order in which its tables keep their entries, so none is passed over. -/
theorem parse_follows_grammar {text : String} {entries : Entries}
    (hdocument : document? text = some entries) :
    (∀ config, parse text = .ok config ↔ Denotes entries config.emptyTokens) ∧
    (∀ fault, parse text = .error fault ↔
      ∃ misfit, IsFirst (MisfitAt entries) misfit ∧ fault = .misfit misfit) ∧
    ((∃ policy, Denotes entries policy) ↔
      ∀ position misfit, ¬MisfitAt entries position misfit) := by
  have hsettles := settles_ofEntries (document?_wellKeyed hdocument)
  rw [parse_of_document? hdocument, ofEntries]
  cases hread : underKey "tokens" policyOfTokens .preserve entries with
  | ok policy =>
    rw [hread] at hsettles
    obtain ⟨honly, hnone⟩ := hsettles
    have hparse : (do return ⟨← .ok policy⟩ : Except Misfit Config).mapError ConfigFault.misfit =
        .ok ⟨policy⟩ := rfl
    rw [hparse]
    refine ⟨fun config => ?_, fun fault => ⟨?_, ?_⟩,
      iff_of_true ⟨policy, (honly policy).mpr rfl⟩ hnone⟩
    · rw [honly]
      constructor
      · rintro ⟨⟩
        rfl
      · rintro rfl
        rfl
    · rintro ⟨⟩
    · rintro ⟨misfit, ⟨position, hmisfit, -⟩, -⟩
      exact absurd hmisfit (hnone position misfit)
  | error misfit =>
    rw [hread] at hsettles
    obtain ⟨hnothing, hfirst⟩ := hsettles
    have hparse : (do return ⟨← .error misfit⟩ : Except Misfit Config).mapError ConfigFault.misfit =
        .error (.misfit misfit) := rfl
    rw [hparse]
    refine ⟨fun config => ⟨?_, ?_⟩, fun fault => ⟨?_, ?_⟩, ?_⟩
    · rintro ⟨⟩
    · exact fun hdenotes => absurd hdenotes (hnothing _)
    · rintro ⟨⟩
      exact ⟨misfit, hfirst, rfl⟩
    · rintro ⟨other, hother, rfl⟩
      rw [hfirst.unique hother]
    · obtain ⟨position, hmisfit, -⟩ := hfirst
      exact iff_of_false (fun ⟨policy, hpolicy⟩ => hnothing policy hpolicy)
        fun hnone => hnone position misfit hmisfit

/-- An array of tables whose first table is a policy, and behind it two keys that are not known. -/
theorem parse_follows_grammar_unknownKey :
    document? "[[tokens]]\n[tokens.collapse]\n[x]\n[y]" =
      some [("tokens", .tables [[("collapse", .table .header [])]]), ("x", .table .header []),
        ("y", .table .header [])] ∧
    parse "[[tokens]]\n[tokens.collapse]\n[x]\n[y]" =
      .error (.misfit (.unknownKey "x" "tokens")) := by
  have hdocument : document? "[[tokens]]\n[tokens.collapse]\n[x]\n[y]" =
      some [("tokens", .tables [[("collapse", .table .header [])]]), ("x", .table .header []),
        ("y", .table .header [])] := by cbv
  have hread : policyOf (.table .header [("collapse", .table .header [])]) = .ok .collapse := rfl
  have hfirst : (Value.tables [[("collapse", .table .header [])]]).elements? =
      some [.table .header [("collapse", .table .header [])]] := rfl
  have htokens : Settles (TokensIs (.tables [[("collapse", .table .header [])]]))
      (TokensMisfit (.tables [[("collapse", .table .header [])]])) (.ok .collapse) := by
    rw [← hread]
    exact settles_firstElement hfirst
  have hx : ([("tokens", .tables [[("collapse", .table .header [])]]), ("x", .table .header []),
      ("y", .table .header [])] : Entries)[1]? = some ("x", .table .header []) := rfl
  refine ⟨hdocument, ((parse_follows_grammar hdocument).2.1 _).mpr ⟨_, ?_, rfl⟩⟩
  refine isFirst_unknownKey (fun earlier hearlier position cause hcause => ?_) hx (by decide)
  obtain rfl : earlier = 0 := by omega
  exact htokens.2 position cause (misfits_of_keyMisfit_zero hcause)

/-- A misfit is written before another one: in front of some place, the text is a document that
    has the one and not the other. -/
def WrittenBefore (text : String) (misfit other : Misfit) : Prop :=
  ∃ front back entries, text = front ++ back ∧ document? front = some entries ∧
    (∃ position, MisfitAt entries position misfit) ∧ ∀ position, ¬MisfitAt entries position other

/-- What is reported need not be written first.  On the third line, the table of the first line gets a
    key that is not known; it is reported, and not the unknown key on the second line. -/
theorem parse_reports_later_misfit :
    document? "tokens.empty = \"preserve\"\nother = 1\ntokens.foo = 2\n" =
      some [("tokens", .table .dotted [("empty", .scalar (.string "preserve")),
        ("foo", .scalar (.integer 2))]), ("other", .scalar (.integer 1))] ∧
    parse "tokens.empty = \"preserve\"\nother = 1\ntokens.foo = 2\n" =
      .error (.misfit (.unknownKey "foo" "empty")) ∧
    MisfitAt [("tokens", .table .dotted [("empty", .scalar (.string "preserve")),
        ("foo", .scalar (.integer 2))]), ("other", .scalar (.integer 1))] [1]
      (.unknownKey "other" "tokens") ∧
    WrittenBefore "tokens.empty = \"preserve\"\nother = 1\ntokens.foo = 2\n"
      (.unknownKey "other" "tokens") (.unknownKey "foo" "empty") := by
  obtain ⟨hdocument, hfront⟩ :
      document? "tokens.empty = \"preserve\"\nother = 1\ntokens.foo = 2\n" =
        some [("tokens", .table .dotted [("empty", .scalar (.string "preserve")),
          ("foo", .scalar (.integer 2))]), ("other", .scalar (.integer 1))] ∧
      document? "tokens.empty = \"preserve\"\nother = 1\n" =
        some [("tokens", .table .dotted [("empty", .scalar (.string "preserve"))]),
          ("other", .scalar (.integer 1))] := ⟨by cbv, by cbv⟩
  have hlines : "tokens.empty = \"preserve\"\nother = 1\ntokens.foo = 2\n" =
      "tokens.empty = \"preserve\"\nother = 1\n" ++ "tokens.foo = 2\n" := by decide
  refine ⟨hdocument, ?_, .key rfl (by decide), _, _, _, hlines, hfront,
    ⟨[1], .key rfl (by decide)⟩, ?_⟩
  · rw [parse_of_document? hdocument]
    rfl
  · -- in the first two lines there is nothing the matter with the value of `tokens`
    have htokens : Settles (TokensIs _) (TokensMisfit _) (.ok .preserve) :=
      settles_policyOfTokens ((document?_wellKeyed hfront).values _ List.mem_cons_self)
    rintro (_ | ⟨index, position⟩) hmisfit
    · generalize Misfit.unknownKey "foo" "empty" = misfit at hmisfit
      cases hmisfit
    · obtain ⟨entry, hentry, ⟨-, -, hcause⟩ | ⟨hkey, hvalue⟩⟩ := keyMisfit_index_iff.mp hmisfit
      · simp at hcause
      · obtain rfl : index = 0 := by
          rcases index with _ | _ | index
          · rfl
          · cases hentry
            simp at hkey
          · cases hentry
        cases hentry
        exact htokens.2 position _ hvalue

end Config

end PlanScaffold
