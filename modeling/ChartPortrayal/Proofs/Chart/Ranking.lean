import ChartPortrayal.Proofs.Chart.Resolution

namespace ChartPortrayal

variable {α β : Type} {better : β → β → Bool} {rank? : Feature α → Option β} {sound : β → Prop}

/-- Where ranks are sound, beating is a strict order in which what is not beaten passes its wins on. -/
structure StrictlyBetter (better : β → β → Bool) (sound : β → Prop) : Prop where
  asymmetric : ∀ first second, sound first → sound second → better first second = true →
    better second first = false
  strict : ∀ first second third, sound first → sound second → sound third →
    better first second = true → better third second = false → better first third = true

/-- A leader that is not beaten, and that comes first where it does not beat the other. -/
def Ahead (better : β → β → Bool) (leader other : Feature α × β) : Prop :=
  better other.2 leader.2 = false ∧ (better leader.2 other.2 = false → leader.1.id ≤ other.1.id)

namespace StrictlyBetter

/-- The reverse of such an order is one, too. -/
theorem reverse (order : StrictlyBetter better sound) :
    StrictlyBetter (fun first second => better second first) sound where
  asymmetric first second one other := order.asymmetric second first other one
  strict first second third one other last wins unbeaten := by
    cases beats : better third first with
    | true => rfl
    | false => exact unbeaten.symm.trans (order.strict second first third other one last wins beats)

variable {challenger leader other : Feature α × β}

theorem ahead_self (order : StrictlyBetter better sound) (own : sound leader.2) :
    Ahead better leader leader := by
  refine ⟨?_, fun _ => Nat.le_refl _⟩
  cases beats : better leader.2 leader.2 with
  | false => rfl
  | true => exact beats.symm.trans (order.asymmetric _ _ own own beats)

/-- Whoever beats the leader is ahead of all that the leader was ahead of. -/
theorem ahead_of_beats (order : StrictlyBetter better sound) (one : sound challenger.2)
    (own : sound leader.2) (last : sound other.2) (wins : better challenger.2 leader.2 = true)
    (ahead : Ahead better leader other) : Ahead better challenger other := by
  have beats := order.strict _ _ _ one own last wins ahead.1
  refine ⟨order.asymmetric _ _ one last beats, fun loses => ?_⟩
  rw [beats] at loses
  cases loses

end StrictlyBetter

/-- The best of the features that were seen is ahead of all that have a rank. -/
structure Best (better : β → β → Bool) (rank? : Feature α → Option β) (seen : List (Feature α))
    (best : Option (Feature α × β)) : Prop where
  ranked : ∀ leader, best = some leader → leader.1 ∈ seen ∧ rank? leader.1 = some leader.2
  ahead : ∀ feature ∈ seen, ∀ rank, rank? feature = some rank →
    ∃ leader, best = some leader ∧ Ahead better leader (feature, rank)

theorem Best.contend (order : StrictlyBetter better sound) {seen : List (Feature α)}
    {best : Option (Feature α × β)} (kept : Best better rank? seen best) {feature : Feature α}
    (sounds : ∀ other ∈ seen ++ [feature], ∀ rank, rank? other = some rank → sound rank)
    (later : ∀ other ∈ seen, other.id < feature.id) :
    Best better rank? (seen ++ [feature]) (contend better rank? best feature) := by
  obtain ⟨oldSounds, newSound⟩ := List.forall_mem_append.mp sounds
  have here := newSound feature (List.mem_singleton_self feature)
  cases ranked : rank? feature with
  | none =>
    simp only [ChartPortrayal.contend, ranked]
    refine ⟨fun leader same => ?_, List.forall_mem_append.mpr ⟨kept.ahead, ?_⟩⟩
    · obtain ⟨member, known⟩ := kept.ranked leader same
      exact ⟨List.mem_append_left _ member, known⟩
    · simp [ranked]
  | some rank =>
    have own : Ahead better (feature, rank) (feature, rank) := order.ahead_self (here rank ranked)
    cases best with
    | none =>
      simp only [ChartPortrayal.contend, ranked]
      refine ⟨?_, List.forall_mem_append.mpr ⟨fun other member record known => ?_, ?_⟩⟩
      · rintro _ ⟨⟩
        exact ⟨by simp, ranked⟩
      · obtain ⟨leader, none, -⟩ := kept.ahead other member record known
        cases none
      · simpa [ranked] using own
    | some leader =>
      obtain ⟨stood, known⟩ := kept.ranked leader rfl
      have leaderSound := oldSounds leader.1 stood leader.2 known
      simp only [ChartPortrayal.contend, ranked]
      cases wins : better rank leader.2 with
      | true =>
        refine ⟨?_, List.forall_mem_append.mpr ⟨fun other member record listed => ?_, ?_⟩⟩
        · rintro _ ⟨⟩
          exact ⟨by simp, ranked⟩
        · obtain ⟨_, ⟨⟩, ahead⟩ := kept.ahead other member record listed
          have recordSound := oldSounds other member record listed
          exact ⟨_, rfl, order.ahead_of_beats (here rank ranked) leaderSound recordSound wins ahead⟩
        · simpa [ranked] using own
      | false =>
        refine ⟨?_, List.forall_mem_append.mpr ⟨kept.ahead, ?_⟩⟩
        · rintro _ ⟨⟩
          exact ⟨List.mem_append_left _ stood, known⟩
        · have behind : Ahead better leader (feature, rank) :=
            ⟨wins, fun _ => Nat.le_of_lt (later leader.1 stood)⟩
          simpa [ranked] using behind

theorem Best.firstBest (order : StrictlyBetter better sound) {seen rest : List (Feature α)}
    {best : Option (Feature α × β)} (kept : Best better rank? seen best)
    (sounds : ∀ other ∈ seen ++ rest, ∀ rank, rank? other = some rank → sound rank)
    (ascending : (seen ++ rest).Pairwise (fun first second => first.id < second.id)) :
    Best better rank? (seen ++ rest) (firstBest better rank? best rest) := by
  rw [firstBest_eq_foldl]
  induction rest generalizing seen best with
  | nil => simpa using kept
  | cons feature rest ih =>
    have grouped : seen ++ feature :: rest = (seen ++ [feature]) ++ rest := by simp
    rw [grouped] at sounds ascending ⊢
    rw [List.foldl_cons]
    refine ih (kept.contend order (fun other member => sounds other (List.mem_append_left _ member)) ?_)
      sounds ascending
    intro other member
    have front := (List.pairwise_append.mp ascending).1
    exact (List.pairwise_append.mp front).2.2 other member feature (by simp)

/-- The first of the features that satisfy a test, where features ascend. -/
theorem id_le_of_find? {list : List (Feature α)} {test : Feature α → Bool} {first : Feature α}
    (ascending : list.Pairwise (fun first second => first.id < second.id))
    (found : list.find? test = some first) {other : Feature α} (member : other ∈ list)
    (passes : test other = true) : first.id ≤ other.id := by
  obtain ⟨-, before, after, rfl, failed⟩ := List.find?_eq_some_iff_append.mp found
  rcases List.mem_append.mp member with earlier | later
  · have fails := failed other earlier
    rw [passes] at fails
    cases fails
  · rcases List.mem_cons.mp later with rfl | behind
    · exact Nat.le_refl _
    · have front := (List.pairwise_append.mp ascending).2.1
      exact Nat.le_of_lt ((List.pairwise_cons.mp front).1 other behind)

/-- The link to the candidate with the lowest identifier; there is none where there is no candidate. -/
def IsFirst (candidate : Feature α → Prop) : Option Nat → Prop
  | none => ∀ feature, ¬ candidate feature
  | some id => ∃ feature, feature.id = id ∧ candidate feature ∧ ∀ other, candidate other → id ≤ other.id

/-- The link to the candidate whose depth no other precedes, and of equal depths to the one with the lowest
identifier; there is none where there is no candidate. -/
def IsOptimum (candidate : Feature α → β → Prop) (precedes : β → β → Prop) : Option Nat → Prop
  | none => ∀ feature depth, ¬ candidate feature depth
  | some id => ∃ feature depth, feature.id = id ∧ candidate feature depth ∧
      ∀ other record, candidate other record →
        precedes depth record ∧ (precedes record depth → id ≤ other.id)

theorem isFirst_find? {list : List (Feature α)}
    (ascending : list.Pairwise (fun first second => first.id < second.id)) {test : Feature α → Bool}
    {candidate : Feature α → Prop}
    (tested : ∀ feature, candidate feature ↔ feature ∈ list ∧ test feature = true) :
    IsFirst candidate ((list.find? test).map (·.id)) := by
  cases found : list.find? test with
  | none =>
    intro feature chosen
    obtain ⟨member, passes⟩ := (tested feature).mp chosen
    exact List.find?_eq_none.mp found feature member passes
  | some first =>
    have chosen := (tested first).mpr ⟨List.mem_of_find?_eq_some found, List.find?_some found⟩
    refine ⟨first, rfl, chosen, fun other chosen => ?_⟩
    obtain ⟨member, passes⟩ := (tested other).mp chosen
    exact id_le_of_find? ascending found member passes

theorem isOptimum_firstBest (order : StrictlyBetter better sound) {list : List (Feature α)}
    (ascending : list.Pairwise (fun first second => first.id < second.id))
    {candidate : Feature α → β → Prop}
    (ranked : ∀ feature depth, candidate feature depth ↔ feature ∈ list ∧ rank? feature = some depth)
    (sounds : ∀ feature depth, candidate feature depth → sound depth) {precedes : β → β → Prop}
    (precedence : ∀ first second, sound first → sound second →
      (precedes first second ↔ better second first = false)) :
    IsOptimum candidate precedes ((firstBest better rank? none list).map (·.1.id)) := by
  have start : Best better rank? [] none := ⟨nofun, nofun⟩
  have best : Best better rank? ([] ++ list) (firstBest better rank? none list) :=
    start.firstBest order
      (fun feature member depth known => sounds feature depth ((ranked feature depth).mpr ⟨member, known⟩))
      ascending
  rw [List.nil_append] at best
  cases winner : firstBest better rank? none list with
  | none =>
    intro feature depth chosen
    obtain ⟨member, known⟩ := (ranked feature depth).mp chosen
    obtain ⟨leader, none, -⟩ := best.ahead feature member depth known
    rw [winner] at none
    cases none
  | some leader =>
    have chosen := (ranked leader.1 leader.2).mpr (best.ranked leader winner)
    refine ⟨leader.1, leader.2, rfl, chosen, fun other record also => ?_⟩
    obtain ⟨member, known⟩ := (ranked other record).mp also
    obtain ⟨_, same, unbeaten, first⟩ := best.ahead other member record known
    cases winner.symm.trans same
    have one := sounds _ _ chosen
    have last := sounds _ _ also
    exact ⟨(precedence _ _ one last).mpr unbeaten, fun back => first ((precedence _ _ last one).mp back)⟩

end ChartPortrayal
