import Mathlib.Tactic.LinearCombination
import NetworkingGame.Actions

/-!
What damage does to a squad. Whole members fall, and the rest of the damage is
taken from the health that each member has, so that all who are left pay it.
The float computation is stated for any way of storing ints in floats:
`Rounding.exact` is exact arithmetic, and `Rounding.binary32` is what the code
runs with.
-/

namespace NetworkingGame

open Library.Binary32 Library.Text Library.Transition

/-- The members of a squad, and the hit points that each of them has. -/
structure Squad where
  size : Int
  health : Int
  alive : 1 ≤ health

namespace Squad

variable {squad : Squad} {damage less more : Int}

theorem health_pos (squad : Squad) : 0 < squad.health := squad.alive

def hit (squad : Squad) (damage : Int) : Squad where
  size := squad.size - damage / squad.health
  health := squad.health - damage % squad.health
  alive := by
    have hless := Int.emod_lt_of_pos damage squad.health_pos
    omega

/-- The hit points of all members together. -/
def total (squad : Squad) : Int := max 0 squad.size * squad.health

/-- What a blow costs beyond its damage: all survivors but one pay the
remainder once more. -/
def surcharge (squad : Squad) (damage : Int) : Int :=
  (squad.size - 1 - damage / squad.health) * (damage % squad.health)

theorem total_hit_of_survivors (h : damage / squad.health < squad.size) :
    (squad.hit damage).total =
      squad.size * squad.health - damage - squad.surcharge damage := by
  have hsplit := Int.mul_ediv_add_emod damage squad.health
  have hsize : max 0 (squad.size - damage / squad.health) =
      squad.size - damage / squad.health := by omega
  simp only [total, hit, surcharge, hsize]
  linear_combination -hsplit

theorem total_hit_of_none (h : squad.size ≤ damage / squad.health) :
    (squad.hit damage).total = 0 := by
  have hsize : max 0 (squad.size - damage / squad.health) = 0 := by omega
  simp only [total, hit, hsize, zero_mul]

theorem total_nonneg (squad : Squad) : 0 ≤ squad.total :=
  mul_nonneg (le_max_left _ _) squad.health_pos.le

/-- More damage leaves no more hit points exactly where it leaves nobody, or
exceeds the smaller damage by what that one costs more in surcharge. -/
theorem total_hit_le_iff (hle : less ≤ more) :
    (squad.hit more).total ≤ (squad.hit less).total ↔
      squad.size ≤ more / squad.health ∨
        squad.surcharge less - squad.surcharge more ≤ more - less := by
  have hfallen : less / squad.health ≤ more / squad.health :=
    Int.ediv_le_ediv squad.health_pos hle
  by_cases hnone : squad.size ≤ more / squad.health
  · have hnonneg := (squad.hit less).total_nonneg
    rw [total_hit_of_none hnone]
    simp [hnone, hnonneg]
  · have hmore : more / squad.health < squad.size := not_le.mp hnone
    rw [total_hit_of_survivors hmore, total_hit_of_survivors (hfallen.trans_lt hmore)]
    constructor
    · intro h
      right
      omega
    · intro h
      have hsurcharge := h.resolve_left hnone
      omega

/-- Damage can be read off from what it leaves. -/
theorem hit_injective (squad : Squad) {damage' : Int}
    (hsize : (squad.hit damage).size = (squad.hit damage').size)
    (hhealth : (squad.hit damage).health = (squad.hit damage').health) : damage = damage' := by
  have hsplit := Int.mul_ediv_add_emod damage squad.health
  have hsplit' := Int.mul_ediv_add_emod damage' squad.health
  simp only [hit] at hsize hhealth
  have hquotient : damage / squad.health = damage' / squad.health := by omega
  rw [← hsplit, ← hsplit', hquotient]
  omega

theorem size_hit_le (squad : Squad) (h : 0 ≤ damage) : (squad.hit damage).size ≤ squad.size := by
  have hquotient := Int.ediv_nonneg h squad.health_pos.le
  simp only [hit]
  omega

theorem health_hit_le (squad : Squad) (damage : Int) :
    (squad.hit damage).health ≤ squad.health := by
  have hrest := Int.emod_nonneg damage squad.health_pos.ne'
  simp only [hit]
  omega

/-- A blow of at least one point takes a member or some of their health. -/
theorem hit_lt (squad : Squad) (h : 1 ≤ damage) :
    (squad.hit damage).size < squad.size ∨ (squad.hit damage).health < squad.health := by
  have hsplit := Int.mul_ediv_add_emod damage squad.health
  have hrest := Int.emod_nonneg damage squad.health_pos.ne'
  have hquotient := Int.ediv_nonneg (by omega : 0 ≤ damage) squad.health_pos.le
  simp only [hit]
  by_contra hsame
  have hnone : damage / squad.health = 0 := by omega
  rw [hnone, mul_zero] at hsplit
  omega

end Squad

namespace GameUnit

def rawDamage (damageDealer : GameUnit) : Int := damageDealer.attack * damageDealer.squadSize

/-- `damage_taken`; `armour / 100` is an int division. -/
def damageTaken (float : Rounding) (unit damageDealer : GameUnit) : Int :=
  let rawDamage := float.store damageDealer.rawDamage
  let mitigatedDamage := float.store (rawDamage * float.store (unit.armour.tdiv 100))
  float.store (rawDamage - mitigatedDamage)

/-- `takeDamage` with the floats of `float`. -/
def takeDamageBy (float : Rounding) (unit damageDealer : GameUnit) : Except Fault GameUnit :=
  let damageTaken := unit.damageTaken float damageDealer
  if unit.health = 0 then .error .divisionByZero
  else .ok { unit with
    health := unit.health - damageTaken.tmod unit.health
    squadSize := unit.squadSize - damageTaken.tdiv unit.health
    hasChanged := true }

theorem takeDamageBy_binary32 (unit damageDealer : GameUnit) :
    unit.takeDamageBy .binary32 damageDealer = unit.takeDamage damageDealer := rfl

/-- The number drawn below a unit, `health * squad_size`; 0 when nobody is left. -/
def shownHealth (unit : GameUnit) : Int := max 0 unit.squadSize * unit.health

def squad (unit : GameUnit) (hhealth : 1 ≤ unit.health) : Squad :=
  ⟨unit.squadSize, unit.health, hhealth⟩

def wounded (unit : GameUnit) (squad : Squad) : GameUnit :=
  { unit with squadSize := squad.size, health := squad.health, hasChanged := true }

/-- A unit of full strength. -/
def recruit (name : UnitName) : GameUnit :=
  createUnit ⟨.cast 0, .cast 0, .cast 0, .cast 0⟩ (UnitType.find name)

/-- The last gun of an artillery squad. -/
def lastGun : GameUnit := { recruit .artillery with squadSize := 1 }

section Damage

variable {float : Rounding} {unit damageDealer : GameUnit}

theorem store_nonneg {n : Int} (h : 0 ≤ n) : 0 ≤ float.store n := by
  have hmono := float.mono h
  rwa [float.zero] at hmono

theorem store_pos {n : Int} (h : 1 ≤ n) : 1 ≤ float.store n := by
  have hmono := float.mono h
  rwa [float.one] at hmono

theorem damageTaken_of_tdiv (float : Rounding) (hpercent : unit.armour.tdiv 100 = 0) :
    unit.damageTaken float damageDealer = float.store damageDealer.rawDamage := by
  simp only [damageTaken, hpercent, float.zero, mul_zero, sub_zero, float.idem]

/-- Armour below 100 mitigates nothing. -/
theorem damageTaken_of_lt (float : Rounding) (harmour : 0 ≤ unit.armour) (hlt : unit.armour < 100) :
    unit.damageTaken float damageDealer = float.store damageDealer.rawDamage :=
  damageTaken_of_tdiv float (Int.tdiv_eq_zero_of_lt harmour hlt)

theorem damageTaken_of_full (float : Rounding) (harmour : unit.armour = 100) :
    unit.damageTaken float damageDealer = 0 := by
  have hpercent : unit.armour.tdiv 100 = 1 := by rw [harmour]; rfl
  simp only [damageTaken, hpercent, float.one, mul_one, float.idem, sub_self, float.zero]

theorem damageTaken_nonneg (float : Rounding) (harmour : 0 ≤ unit.armour ∧ unit.armour ≤ 100)
    (hraw : 0 ≤ damageDealer.rawDamage) : 0 ≤ unit.damageTaken float damageDealer := by
  by_cases hfull : unit.armour = 100
  · rw [damageTaken_of_full float hfull]
  · rw [damageTaken_of_lt float harmour.1 (by omega)]
    exact store_nonneg hraw

/-- The code's divisions are those of a blow to the squad. -/
theorem takeDamageBy_eq (hhealth : 1 ≤ unit.health)
    (hdamage : 0 ≤ unit.damageTaken float damageDealer) :
    unit.takeDamageBy float damageDealer =
      .ok (unit.wounded ((unit.squad hhealth).hit (unit.damageTaken float damageDealer))) := by
  have hne : unit.health ≠ 0 := by omega
  simp only [takeDamageBy, if_neg hne, wounded, Squad.hit, squad,
    Int.tmod_eq_emod_of_nonneg hdamage, Int.tdiv_eq_ediv_of_nonneg hdamage]

/-- The stronger of two attackers leaves no more hit points exactly where the
armour is full, nobody survives it, or its extra damage makes up for what the
weaker one costs more in surcharge. -/
theorem stronger_attack_iff (float : Rounding) {unit weaker stronger : GameUnit}
    (hhealth : 1 ≤ unit.health) (harmour : 0 ≤ unit.armour ∧ unit.armour ≤ 100)
    (hraw : 0 ≤ weaker.rawDamage) (hle : weaker.rawDamage ≤ stronger.rawDamage) :
    (∃ less more, unit.takeDamageBy float weaker = .ok less ∧
        unit.takeDamageBy float stronger = .ok more ∧ more.shownHealth ≤ less.shownHealth) ↔
      unit.armour = 100 ∨
        unit.squadSize ≤ float.store stronger.rawDamage / unit.health ∨
        (unit.squad hhealth).surcharge (float.store weaker.rawDamage) -
            (unit.squad hhealth).surcharge (float.store stronger.rawDamage) ≤
          float.store stronger.rawDamage - float.store weaker.rawDamage := by
  have hweak := takeDamageBy_eq hhealth (damageTaken_nonneg float harmour hraw)
  have hstrong := takeDamageBy_eq hhealth (damageTaken_nonneg float harmour (hraw.trans hle))
  have hboth : (∃ less more, unit.takeDamageBy float weaker = .ok less ∧
        unit.takeDamageBy float stronger = .ok more ∧ more.shownHealth ≤ less.shownHealth) ↔
      ((unit.squad hhealth).hit (unit.damageTaken float stronger)).total ≤
        ((unit.squad hhealth).hit (unit.damageTaken float weaker)).total := by
    rw [hweak, hstrong]
    constructor
    · rintro ⟨less, more, hless, hmore, hshown⟩
      rw [← Except.ok.inj hless, ← Except.ok.inj hmore] at hshown
      exact hshown
    · intro hshown
      exact ⟨_, _, rfl, rfl, hshown⟩
  rw [hboth]
  by_cases hfull : unit.armour = 100
  · rw [damageTaken_of_full float hfull, damageTaken_of_full float hfull]
    simp [hfull]
  · rw [damageTaken_of_lt float harmour.1 (by omega), damageTaken_of_lt float harmour.1 (by omega),
      Squad.total_hit_le_iff (float.mono hle)]
    simp only [hfull, false_or]
    rfl

/-- A tank does 15 points of damage to five snipers with ten hit points each,
the last gun 20: four snipers with five are left, or three with ten. -/
theorem stronger_attack_spares :
    (recruit .tank).rawDamage = 15 ∧ lastGun.rawDamage = 20 ∧
      ((recruit .sniper).takeDamageBy .exact (recruit .tank)).map shownHealth = .ok 20 ∧
      ((recruit .sniper).takeDamageBy .exact lastGun).map shownHealth = .ok 30 ∧
      ((recruit .sniper).takeDamage (recruit .tank)).map shownHealth = .ok 20 ∧
      ((recruit .sniper).takeDamage lastGun).map shownHealth = .ok 30 := by
  refine ⟨by decide, by decide, by rfl, by rfl, ?_, ?_⟩ <;> decide +kernel

theorem stronger_attack_iff_sniper :
    ∃ less more, (recruit .sniper).takeDamageBy .exact (recruit .infantry) = .ok less ∧
      (recruit .sniper).takeDamageBy .exact (recruit .sniper) = .ok more ∧
      more.shownHealth ≤ less.shownHealth :=
  (stronger_attack_iff .exact (by decide) (by decide) (by decide) (by decide)).mpr
    (.inr (.inl (by decide)))

/-- No unit of the game has full armour, so none of them mitigates anything. -/
theorem damageTaken_recruit (float : Rounding) (name : UnitName) (damageDealer : GameUnit) :
    (recruit name).damageTaken float damageDealer = float.store damageDealer.rawDamage := by
  apply damageTaken_of_lt
  · cases name <;> decide
  · cases name <;> decide

section Mitigation

/-- The hit points that separate two states of a unit, in the members lost and
in the health of those that are left. -/
def pointsLost (before after : GameUnit) : Int :=
  (before.squadSize - after.squadSize) * before.health + (before.health - after.health)

theorem pointsLost_wounded (hhealth : 1 ≤ unit.health) (damage : Int) :
    unit.pointsLost (unit.wounded ((unit.squad hhealth).hit damage)) = damage := by
  have hsplit := Int.mul_ediv_add_emod damage unit.health
  simp only [pointsLost, wounded, Squad.hit, squad]
  linear_combination hsplit

/-- `takeDamage` with ints of 32 bits: an overflow of the product, of the damage as
an int or of what is left of the squad has no defined result. -/
def takeDamageInt32 (unit damageDealer : GameUnit) : Option GameUnit :=
  if InInt32 damageDealer.rawDamage ∧ InInt32 (unit.damageTaken .binary32 damageDealer) then
    (unit.takeDamage damageDealer).toOption.filter fun hurt =>
      InInt32 hurt.squadSize ∧ InInt32 hurt.health
  else none

theorem takeDamage_of_int32 {hurt : GameUnit}
    (h : unit.takeDamageInt32 damageDealer = some hurt) :
    unit.takeDamage damageDealer = .ok hurt := by
  unfold takeDamageInt32 at h
  split at h
  · obtain ⟨htaken, -⟩ := Option.filter_eq_some_iff.mp h
    exact Conn.toOption_eq_some htaken
  · cases h

/-- Without an overflow the unit is hurt by the damage that it takes. -/
theorem takeDamageInt32_eq_some {hurt : GameUnit} (hhealth : 1 ≤ unit.health)
    (hdamage : 0 ≤ unit.damageTaken .binary32 damageDealer) :
    unit.takeDamageInt32 damageDealer = some hurt ↔
      (InInt32 damageDealer.rawDamage ∧ InInt32 (unit.damageTaken .binary32 damageDealer)) ∧
        (InInt32 hurt.squadSize ∧ InInt32 hurt.health) ∧
          hurt = unit.wounded
            ((unit.squad hhealth).hit (unit.damageTaken .binary32 damageDealer)) := by
  have htaken := takeDamageBy_eq hhealth hdamage
  rw [takeDamageBy_binary32] at htaken
  unfold takeDamageInt32
  rw [htaken]
  split
  · rename_i hints
    simp only [Except.toOption, Option.filter_eq_some_iff, Option.some.injEq, decide_eq_true_eq,
      hints, and_self, true_and]
    constructor
    · rintro ⟨rfl, hleft⟩
      exact ⟨hleft, rfl⟩
    · rintro ⟨hleft, rfl⟩
      exact ⟨rfl, hleft⟩
  · rename_i hints
    simp [hints]

/-- What armour is meant to let through. -/
def unmitigated (unit damageDealer : GameUnit) : Int :=
  damageDealer.rawDamage - damageDealer.rawDamage * unit.armour / 100

/-- Armour mitigates its percentage of the damage: more of it never lets more
through, and full armour nothing. -/
structure Mitigates (unit damageDealer : GameUnit) : Prop where
  applied : ∃ hurt, unit.takeDamageInt32 damageDealer = some hurt ∧
    hurt.squadSize = unit.squadSize - unit.unmitigated damageDealer / unit.health ∧
    hurt.health = unit.health - unit.unmitigated damageDealer % unit.health
  antitone : ∀ armour, unit.armour ≤ armour → armour ≤ 100 → ∃ hurt spared,
    unit.takeDamageInt32 damageDealer = some hurt ∧
      { unit with armour := armour }.takeDamageInt32 damageDealer = some spared ∧
      unit.pointsLost spared ≤ unit.pointsLost hurt
  full : unit.armour = 100 →
    unit.takeDamageInt32 damageDealer = some { unit with hasChanged := true }

theorem damageTaken_antitone (float : Rounding) {armour : Int} (harmour : 0 ≤ unit.armour)
    (hraw : 0 ≤ damageDealer.rawDamage) (hmore : unit.armour ≤ armour) (hfull : armour ≤ 100) :
    { unit with armour := armour }.damageTaken float damageDealer ≤
      unit.damageTaken float damageDealer := by
  by_cases hall : armour = 100
  · have hall' : { unit with armour := armour }.armour = 100 := hall
    rw [damageTaken_of_full float hall']
    exact damageTaken_nonneg float ⟨harmour, by omega⟩ hraw
  · have hless : { unit with armour := armour }.armour < 100 := by
      dsimp only
      omega
    rw [damageTaken_of_lt float harmour (by omega),
      damageTaken_of_lt float (harmour.trans hmore) hless]

/-- The damage that gets through is the one that is meant to. -/
theorem damageTaken_eq_unmitigated_iff (harmour : 0 ≤ unit.armour ∧ unit.armour ≤ 100)
    (hraw : 0 ≤ damageDealer.rawDamage) :
    unit.damageTaken .binary32 damageDealer = unit.unmitigated damageDealer ↔
      unit.armour = 100 ∨
        damageDealer.rawDamage * unit.armour < 100 ∧
          ofInt damageDealer.rawDamage = damageDealer.rawDamage := by
  by_cases hfull : unit.armour = 100
  · rw [damageTaken_of_full _ hfull, unmitigated, hfull, Int.mul_ediv_cancel _ (by norm_num)]
    simp
  · rw [damageTaken_of_lt _ harmour.1 (by omega), unmitigated]
    simp only [Rounding.binary32, hfull, false_or]
    have hproduct : 0 ≤ damageDealer.rawDamage * unit.armour := mul_nonneg hraw harmour.1
    constructor
    · intro h
      by_cases hnone : damageDealer.rawDamage * unit.armour < 100
      · exact ⟨hnone, by omega⟩
      · -- what is meant to be mitigated exceeds any rounding error
        have harmed : 1 ≤ unit.armour := by
          by_contra hzero
          have hbare : unit.armour = 0 := by omega
          rw [hbare, mul_zero] at hnone
          omega
        have hpercent : damageDealer.rawDamage ≤ damageDealer.rawDamage * unit.armour :=
          le_mul_of_one_le_right hraw harmed
        have hstored := sub_le_ofInt hraw
        by_cases hsmall : damageDealer.rawDamage.natAbs ≤ 2 ^ 24
        · rw [ofInt_of_le hsmall] at h
          omega
        · omega
    · rintro ⟨hnone, hexact⟩
      omega

/-- A blow leaves ints, if what is left of the squad is not too far below zero. -/
theorem inInt32_wounded (hhealth : 1 ≤ unit.health)
    (hints : InInt32 unit.squadSize ∧ InInt32 unit.health) {damage : Int} (hdamage : 0 ≤ damage)
    (hleast : -2 ^ 31 ≤ unit.squadSize - damage / unit.health) :
    InInt32 (unit.wounded ((unit.squad hhealth).hit damage)).squadSize ∧
      InInt32 (unit.wounded ((unit.squad hhealth).hit damage)).health := by
  have hsize := (unit.squad hhealth).size_hit_le hdamage
  have hless := (unit.squad hhealth).health_hit_le damage
  have hleft := ((unit.squad hhealth).hit damage).alive
  obtain ⟨⟨-, hsquad⟩, ⟨-, hmost⟩⟩ := hints
  refine ⟨⟨hleast, ?_⟩, ⟨?_, ?_⟩⟩
  · exact lt_of_le_of_lt hsize hsquad
  · simp only [wounded]
    omega
  · exact lt_of_le_of_lt hless hmost

/-- The ints of a blow: the raw damage, the damage that is taken and what is left
of the squad. -/
theorem takeDamageInt32_isSome_iff (hhealth : 1 ≤ unit.health)
    (hints : InInt32 unit.squadSize ∧ InInt32 unit.health)
    (hdamage : 0 ≤ unit.damageTaken .binary32 damageDealer) :
    (∃ hurt, unit.takeDamageInt32 damageDealer = some hurt) ↔
      InInt32 damageDealer.rawDamage ∧ InInt32 (unit.damageTaken .binary32 damageDealer) ∧
        -2 ^ 31 ≤ unit.squadSize - unit.damageTaken .binary32 damageDealer / unit.health := by
  simp only [takeDamageInt32_eq_some hhealth hdamage]
  constructor
  · rintro ⟨hurt, ⟨hraw, htaken⟩, ⟨hsquad, -⟩, rfl⟩
    exact ⟨hraw, htaken, hsquad.1⟩
  · rintro ⟨hraw, htaken, hleast⟩
    exact ⟨_, ⟨hraw, htaken⟩, inInt32_wounded hhealth hints hdamage hleast, rfl⟩

/-- The armour does what it is meant to if the blow is defined and the damage that
gets through is the one that is meant to. -/
theorem mitigates_iff_damageTaken (hhealth : 1 ≤ unit.health)
    (harmour : 0 ≤ unit.armour ∧ unit.armour ≤ 100)
    (hints : InInt32 unit.squadSize ∧ InInt32 unit.health) (hraw : 0 ≤ damageDealer.rawDamage) :
    unit.Mitigates damageDealer ↔
      (∃ hurt, unit.takeDamageInt32 damageDealer = some hurt) ∧
        unit.damageTaken .binary32 damageDealer = unit.unmitigated damageDealer := by
  have hdamage := damageTaken_nonneg .binary32 harmour hraw
  constructor
  · intro h
    obtain ⟨hurt, hhurt, hsize, hleft⟩ := h.applied
    refine ⟨⟨hurt, hhurt⟩, ?_⟩
    obtain ⟨-, -, rfl⟩ := (takeDamageInt32_eq_some hhealth hdamage).mp hhurt
    exact (unit.squad hhealth).hit_injective hsize hleft
  · rintro ⟨⟨hurt, hhurt⟩, hequal⟩
    obtain ⟨⟨hint, htaken⟩, ⟨hsquad, -⟩, rfl⟩ :=
      (takeDamageInt32_eq_some hhealth hdamage).mp hhurt
    constructor
    · refine ⟨_, hhurt, ?_⟩
      rw [← hequal]
      exact ⟨rfl, rfl⟩
    · intro armour hmore hmost
      let armoured : GameUnit := { unit with armour := armour }
      have hless : armoured.damageTaken .binary32 damageDealer ≤
          unit.damageTaken .binary32 damageDealer :=
        damageTaken_antitone .binary32 harmour.1 hraw hmore hmost
      have hnone : 0 ≤ armoured.damageTaken .binary32 damageDealer :=
        damageTaken_nonneg .binary32 ⟨harmour.1.trans hmore, hmost⟩ hraw
      have hfewer := Int.ediv_le_ediv (unit.squad hhealth).health_pos hless
      -- less damage leaves more of the squad, so that this is an int as well
      have hleast : -2 ^ 31 ≤ armoured.squadSize -
          armoured.damageTaken .binary32 damageDealer / armoured.health :=
        hsquad.1.trans (Int.sub_le_sub_left hfewer unit.squadSize)
      obtain ⟨spared, hspared⟩ :=
        (@takeDamageInt32_isSome_iff armoured damageDealer hhealth hints hnone).mpr
          ⟨hint, ⟨by omega, lt_of_le_of_lt hless htaken.2⟩, hleast⟩
      refine ⟨_, spared, hhurt, hspared, ?_⟩
      obtain ⟨-, -, rfl⟩ :=
        (@takeDamageInt32_eq_some armoured damageDealer spared hhealth hnone).mp hspared
      rw [pointsLost_wounded]
      exact (@pointsLost_wounded armoured hhealth _).trans_le hless
    · intro hfull
      rw [hhurt, damageTaken_of_full _ hfull]
      simp [wounded, Squad.hit, squad]

/-- Armour does what it is meant to exactly where the product is an int and the
armour is full, or would not even mitigate one point of a damage that is stored
exactly and leaves an int of the squad. -/
theorem mitigates_iff (hattack : 0 ≤ damageDealer.attack) (hsquad : 0 ≤ damageDealer.squadSize)
    (hhealth : 1 ≤ unit.health) (harmour : 0 ≤ unit.armour ∧ unit.armour ≤ 100)
    (hints : InInt32 unit.squadSize ∧ InInt32 unit.health) :
    unit.Mitigates damageDealer ↔
      InInt32 damageDealer.rawDamage ∧
        (unit.armour = 100 ∨
          damageDealer.rawDamage * unit.armour < 100 ∧
            ofInt damageDealer.rawDamage = damageDealer.rawDamage ∧
            -2 ^ 31 ≤ unit.squadSize - damageDealer.rawDamage / unit.health) := by
  have hraw : 0 ≤ damageDealer.rawDamage := mul_nonneg hattack hsquad
  have hdamage := damageTaken_nonneg .binary32 harmour hraw
  rw [mitigates_iff_damageTaken hhealth harmour hints hraw,
    takeDamageInt32_isSome_iff hhealth hints hdamage, damageTaken_eq_unmitigated_iff harmour hraw]
  by_cases hfull : unit.armour = 100
  · have hleast := hints.1.1
    have hzero : InInt32 0 := by decide
    simp only [damageTaken_of_full _ hfull, hfull, hzero, Int.zero_ediv, sub_zero, hleast,
      true_or, and_true]
  · have htaken : unit.damageTaken .binary32 damageDealer = ofInt damageDealer.rawDamage :=
      damageTaken_of_lt .binary32 harmour.1 (by omega)
    simp only [htaken, hfull, false_or]
    constructor
    · rintro ⟨⟨hint, -, hleast⟩, hnone, hexact⟩
      rw [hexact] at hleast
      exact ⟨hint, hnone, hexact, hleast⟩
    · rintro ⟨hint, hnone, hexact, hleast⟩
      rw [hexact]
      exact ⟨⟨hint, hint, hleast⟩, hnone, rfl⟩

/-- Infantry fire at infantry: 50 points of damage, of which an armour of 50
is meant to let 25 through; all of them get through. -/
theorem infantry_unmitigated :
    (recruit .infantry).unmitigated (recruit .infantry) = 25 ∧
      ((recruit .infantry).takeDamage (recruit .infantry)).map
        (fun hurt => (hurt.squadSize, hurt.health)) = .ok (8, 10) ∧
      ¬ (recruit .infantry).Mitigates (recruit .infantry) := by
  have htaken : ((recruit .infantry).takeDamage (recruit .infantry)).map
      (fun hurt => (hurt.squadSize, hurt.health)) = .ok (8, 10) := by decide +kernel
  refine ⟨by decide, htaken, ?_⟩
  intro h
  obtain ⟨hurt, hhurt, hsize, -⟩ := h.applied
  rw [takeDamage_of_int32 hhurt] at htaken
  have hlost : hurt.squadSize = 8 := congrArg Prod.fst (Except.ok.inj htaken)
  rw [hlost] at hsize
  exact absurd hsize (by decide)

/-- The artillery has no armour. -/
theorem mitigates_iff_artillery : (recruit .artillery).Mitigates (recruit .infantry) :=
  (mitigates_iff (by decide) (by decide) (by decide) (by decide) (by decide)).mpr (by decide)

end Mitigation

section Fight

/-- One blow: everybody left has a hit point, nothing grows, and a member falls
or health is lost. -/
structure Weakened (before after : GameUnit) : Prop where
  alive : 1 ≤ before.health ∧ 1 ≤ after.health
  squadSize : after.squadSize ≤ before.squadSize
  health : after.health ≤ before.health
  lost : after.squadSize < before.squadSize ∨ after.health < before.health

/-- The unit is attacked by each of the units in turn. -/
def fight (float : Rounding) (unit : GameUnit) (damageDealers : List GameUnit) :
    Except Fault GameUnit :=
  damageDealers.foldlM (takeDamageBy float) unit

/-- A unit that a fight wears down: its armour is not full and everybody in it
has a hit point. -/
structure Vulnerable (unit : GameUnit) : Prop where
  health : 1 ≤ unit.health
  armour : 0 ≤ unit.armour ∧ unit.armour < 100

theorem Vulnerable.takeDamageBy (float : Rounding) (h : unit.Vulnerable)
    (hattack : 1 ≤ damageDealer.attack) (hsquad : 1 ≤ damageDealer.squadSize) :
    ∃ hurt, unit.takeDamageBy float damageDealer = .ok hurt ∧ hurt.Vulnerable ∧
      unit.Weakened hurt := by
  have hraw : 1 ≤ damageDealer.rawDamage := one_le_mul_of_one_le_of_one_le hattack hsquad
  have hdamage : 1 ≤ unit.damageTaken float damageDealer := by
    rw [damageTaken_of_lt float h.armour.1 h.armour.2]
    exact store_pos hraw
  have hleft := ((unit.squad h.health).hit (unit.damageTaken float damageDealer)).alive
  refine ⟨_, takeDamageBy_eq h.health (by omega), ⟨hleft, h.armour⟩, ?_⟩
  constructor
  · exact ⟨h.health, hleft⟩
  · exact (unit.squad h.health).size_hit_le (by omega)
  · exact (unit.squad h.health).health_hit_le _
  · exact (unit.squad h.health).hit_lt hdamage

/-- Every blow costs the unit a member or a hit point of each. -/
theorem Vulnerable.fight (float : Rounding) (h : unit.Vulnerable) {damageDealers : List GameUnit}
    (hdealers : ∀ dealer ∈ damageDealers, 1 ≤ dealer.attack ∧ 1 ≤ dealer.squadSize) :
    ∃ last, unit.fight float damageDealers = .ok last ∧ last.Vulnerable ∧
      last.squadSize + last.health + damageDealers.length ≤ unit.squadSize + unit.health := by
  apply foldlM_measure Vulnerable (fun unit => unit.squadSize + unit.health) _ h
  intro dealer hdealer unit hunit
  obtain ⟨hurt, hhurt, hvulnerable, hweakened⟩ :=
    hunit.takeDamageBy float (hdealers dealer hdealer).1 (hdealers dealer hdealer).2
  have hsquadSize := hweakened.squadSize
  have hhealth := hweakened.health
  have hlost := hweakened.lost
  exact ⟨hurt, hhurt, hvulnerable, by omega⟩

/-- Every call of a fight is defined and weakens the unit, and after
`squadSize + health - 1` of them nobody is left. -/
theorem fight_ends (float : Rounding) {unit : GameUnit} (hhealth : 1 ≤ unit.health)
    (harmour : 0 ≤ unit.armour ∧ unit.armour < 100) {damageDealers : List GameUnit}
    (hdealers : ∀ dealer ∈ damageDealers, 1 ≤ dealer.attack ∧ 1 ≤ dealer.squadSize) :
    (∀ before dealer after, damageDealers = before ++ dealer :: after →
      ∃ met hurt, unit.fight float before = .ok met ∧
        met.takeDamageBy float dealer = .ok hurt ∧ met.Weakened hurt) ∧
      ∃ last, unit.fight float damageDealers = .ok last ∧ 1 ≤ last.health ∧
        (unit.squadSize + unit.health - 1 ≤ damageDealers.length → last.squadSize ≤ 0) := by
  have hvulnerable : unit.Vulnerable := ⟨hhealth, harmour⟩
  constructor
  · intro before dealer after hsplit
    have hbefore : ∀ other ∈ before, 1 ≤ other.attack ∧ 1 ≤ other.squadSize := by
      intro other hother
      apply hdealers
      simp [hsplit, hother]
    obtain ⟨hattack, hsquad⟩ := hdealers dealer (by simp [hsplit])
    obtain ⟨met, hmet, hkept, -⟩ := hvulnerable.fight float hbefore
    obtain ⟨hurt, hhurt, -, hweakened⟩ := hkept.takeDamageBy float hattack hsquad
    exact ⟨met, hurt, hmet, hhurt, hweakened⟩
  · obtain ⟨last, hlast, hkept, hpaid⟩ := hvulnerable.fight float hdealers
    have hleft := hkept.health
    refine ⟨last, hlast, hleft, ?_⟩
    intro henough
    omega

theorem fight_ends_sniper :
    ∃ last, (recruit .sniper).fight .exact (List.replicate 14 lastGun) = .ok last ∧
      1 ≤ last.health ∧
      ((recruit .sniper).squadSize + (recruit .sniper).health - 1 ≤
        (List.replicate 14 lastGun).length → last.squadSize ≤ 0) := by
  have hhealth : 1 ≤ (recruit .sniper).health := by decide
  have hdealers : ∀ dealer ∈ List.replicate 14 lastGun,
      1 ≤ dealer.attack ∧ 1 ≤ dealer.squadSize := by
    intro dealer hdealer
    rw [List.eq_of_mem_replicate hdealer]
    decide
  exact (fight_ends .exact hhealth (by decide) hdealers).2

end Fight

end Damage

end GameUnit

end NetworkingGame
