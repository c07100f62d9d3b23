import Typeahead.Config.Load
import Typeahead.Proofs.Results

/-!
# What a setting takes

A setting is named by its key in any case, and by a variable with the common
stem in front (`Setting.ofKey?_eq_some_iff`, `Setting.exists_keyOfVariable_iff`).
What a setting takes from a raw value is said by its own reader and bound
(`Setting.read`).  That is what assigning the value makes of it, whatever the
settings are (`Settings.map_get_assign`), and the other settings stay as they
are (`Settings.get_of_assign`).
-/

namespace Typeahead.Config

set_option autoImplicit false

/-! ## Names of settings -/

/-- A letter that is lowered becomes a small one. -/
theorem toLower_cases (c : Char) :
    c.toLower = c ∨ ('a'.toNat ≤ c.toLower.toNat ∧ c.toLower.toNat ≤ 'z'.toNat) := by
  unfold Char.toLower
  split
  · rename_i capital
    have least : 65 ≤ c.val.toNat := UInt32.le_iff_toNat_le.mp capital.1
    have most : c.val.toNat ≤ 90 := UInt32.le_iff_toNat_le.mp capital.2
    have lowered : (c.val + ('a'.val - 'A'.val)).toNat = c.val.toNat + 32 := by
      rw [UInt32.toNat_add, show ('a'.val - 'A'.val).toNat = 32 from rfl]
      omega
    right
    change 97 ≤ (c.val + ('a'.val - 'A'.val)).toNat ∧ (c.val + ('a'.val - 'A'.val)).toNat ≤ 122
    omega
  · exact .inl rfl

theorem smallLetter_smallLetter (c : Char) : smallLetter (smallLetter c) = smallLetter c := by
  unfold smallLetter
  by_cases kelvin : c = '\u212A'
  · rw [if_pos kelvin]
    decide
  · rw [if_neg kelvin]
    rcases toLower_cases c with same | ⟨least, most⟩
    · rw [same, if_neg kelvin, same]
    · have notKelvin : c.toLower ≠ '\u212A' := by
        intro same
        rw [same] at most
        exact absurd most (by decide)
      have notCapital : ¬ c.toLower.val ≤ 'Z'.val := by
        intro most
        have small : c.toLower.toNat ≤ 90 := UInt32.le_iff_toNat_le.mp most
        exact absurd (Nat.le_trans least small) (by decide)
      rw [if_neg notKelvin]
      exact dif_neg fun capital => notCapital capital.2

namespace Setting

/-- The text is the key of the setting, in whatever case. -/
def IsKey (setting : Setting) (text : String) : Prop := text.map smallLetter = setting.key

/-- The text is the name of the variable of the setting, in whatever case. -/
def IsVariable (setting : Setting) (text : String) : Prop :=
  text.map smallLetter = variableStem ++ setting.key

instance (setting : Setting) (text : String) : Decidable (setting.IsKey text) :=
  inferInstanceAs (Decidable (_ = _))

instance (setting : Setting) (text : String) : Decidable (setting.IsVariable text) :=
  inferInstanceAs (Decidable (_ = _))

theorem key_injective {setting other : Setting} (same : setting.key = other.key) :
    setting = other := by
  cases setting <;> cases other <;> first | rfl | exact absurd same (by decide)

theorem nodup_all : all.Nodup := by decide

/-- A key gives the setting whose key it is. -/
theorem ofKey?_eq_some_iff {text : String} {setting : Setting} :
    ofKey? text = some setting ↔ setting.IsKey text := by
  unfold ofKey? IsKey
  constructor
  · intro found
    have matched := List.find?_some found
    exact (eq_of_beq matched).symm
  · intro named
    obtain ⟨found, eq⟩ : ∃ found, all.find? (fun setting => setting.key == text.map smallLetter) =
        some found := by
      rw [← Option.isSome_iff_exists, List.find?_isSome]
      exact ⟨setting, mem_all setting, by simp [named]⟩
    have matched : (found.key == text.map smallLetter) = true :=
      List.find?_some (p := fun setting : Setting => setting.key == text.map smallLetter) eq
    rw [eq, key_injective ((eq_of_beq matched).trans named)]

theorem ofKey?_eq_none_iff {text : String} :
    ofKey? text = none ↔ ∀ setting : Setting, ¬ setting.IsKey text := by
  simp only [Option.eq_none_iff_forall_ne_some, ne_eq, ofKey?_eq_some_iff]

/-- A key that names a setting is no parameter of the loading. -/
theorem IsKey.not_isParameter {setting : Setting} {text : String} (named : setting.IsKey text) :
    isParameter text = false := by
  by_contra parameter
  have first : text.toList.head? = some '_' := by simpa [isParameter] using parameter
  have shown : setting.key.toList.head? = some '_' := by
    rw [← named, String.toList_map, List.head?_map, first]
    rfl
  cases setting <;> exact absurd shown (by decide)

/-- What stands behind the stem of a variable is the key of the setting whose variable it is. -/
theorem exists_keyOfVariable_iff {name : String} {setting : Setting} :
    (∃ key, keyOfVariable? name = some key ∧ setting.IsKey key) ↔ setting.IsVariable name := by
  have small : (name.toList.map smallLetter).map smallLetter = name.toList.map smallLetter := by
    simp only [List.map_map]
    exact List.map_congr_left fun c _ => smallLetter_smallLetter c
  have isKey_drop : setting.IsKey (String.ofList
        ((name.toList.map smallLetter).drop variableStem.toList.length)) ↔
      (name.toList.map smallLetter).drop variableStem.toList.length = setting.key.toList := by
    rw [IsKey, ← String.toList_inj, String.toList_map, String.toList_ofList, List.map_drop, small]
  have isVariable : setting.IsVariable name ↔
      name.toList.map smallLetter = variableStem.toList ++ setting.key.toList := by
    rw [IsVariable, ← String.toList_inj, String.toList_map, String.toList_append]
  simp only [keyOfVariable?]
  constructor
  · rintro ⟨key, found, named⟩
    split at found
    · rename_i stemmed
      obtain ⟨rest, same⟩ := List.isPrefixOf_iff_prefix.mp stemmed
      cases found
      have tail := isKey_drop.mp named
      rw [← same, List.drop_left] at tail
      rw [isVariable, ← same, tail]
    · exact nomatch found
  · intro named
    have same := isVariable.mp named
    refine ⟨_, if_pos (List.isPrefixOf_iff_prefix.mpr ⟨_, same.symm⟩), isKey_drop.mpr ?_⟩
    rw [same, List.drop_left]

end Setting

/-! ## Values -/

theorem backendName_injective {backend other : Backend}
    (same : nameOfChoice backendNames backend = nameOfChoice backendNames other) :
    backend = other := by
  cases backend <;> cases other <;> first | rfl | exact absurd same (by decide)

theorem logLevelName_injective {level other : LogLevel}
    (same : nameOfChoice logLevelNames level = nameOfChoice logLevelNames other) :
    level = other := by
  cases level <;> cases other <;> first | rfl | exact absurd same (by decide)

/-- Settings are known by their values. -/
theorem Settings.ext_get {settings other : Settings}
    (same : ∀ setting, settings.get setting = other.get setting) : settings = other := by
  rcases settings
  rcases other
  rw [Settings.mk.injEq]
  exact ⟨backendName_injective (Raw.text.inj (same .storeBackend)),
    Raw.text.inj (same .storeAddress), Raw.real.inj (same .storeTimeout),
    Raw.text.inj (same .catalog), Raw.real.inj (same .fetchTimeout),
    Raw.real.inj (same .rebuildInterval), Raw.integer.inj (same .batchSize),
    Raw.real.inj (same .readinessPoll), Raw.truth.inj (same .runIndexer),
    Raw.integer.inj (same .cacheMaxAge), Raw.integer.inj (same .queryLimit),
    Raw.text.inj (same .host), Raw.integer.inj (same .port),
    logLevelName_injective (Raw.text.inj (same .logLevel))⟩

/-- The value that a setting takes from a raw value. -/
def Setting.read (setting : Setting) (raw : Raw) : Except Problem Raw :=
  match setting with
  | .storeBackend => (raw.toChoice backendNames).map (.text <| nameOfChoice backendNames ·)
  | .logLevel => (raw.toChoice logLevelNames).map (.text <| nameOfChoice logLevelNames ·)
  | .storeAddress | .catalog | .host => raw.toText.map .text
  | .storeTimeout | .fetchTimeout | .rebuildInterval => (raw.toRealAbove 0).map .real
  | .readinessPoll => (raw.toRealFrom 0).map .real
  | .batchSize | .queryLimit => (raw.toIntegerFrom 1).map .integer
  | .cacheMaxAge => (raw.toIntegerFrom 0).map .integer
  | .port => raw.toInteger.map .integer
  | .runIndexer => raw.toTruth.map .truth

/-- **Whatever the settings are, assigning a raw value to a setting leaves it with the value that it
takes from it**, or fails as taking it does. -/
theorem Settings.map_get_assign (settings : Settings) (raw : Raw) (setting : Setting) :
    (settings.assign raw setting).map (·.get setting) = setting.read raw := by
  cases setting <;> simp only [Setting.read, Settings.assign, map_map, Settings.get]

/-- A setting that is given a value leaves the others as they are. -/
theorem Settings.get_of_assign {settings next : Settings} {raw : Raw} {setting other : Setting}
    (assigned : settings.assign raw setting = .ok next) (different : other ≠ setting) :
    next.get other = settings.get other := by
  cases setting <;> obtain ⟨value, -, rfl⟩ := exists_of_map_eq_ok assigned <;>
    cases other <;> first | rfl | exact absurd rfl different

end Typeahead.Config
