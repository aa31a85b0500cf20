import PepeAudio.Player.Safety

/-!
# The idle timer disconnects idle players only

Between two steps the timer is armed exactly while the player is idle-connected.
Arming moves to a new generation, so an expiration that is let through was armed
at some step of the run, and every state since then was idle.
-/
namespace PepeAudio

open Actor

variable {P S : Type}

/-- Counters that the next step may need are not used up. -/
structure Player.Unexhausted (player : Player P S) : Prop where
  idle : player.actor.idleTimer.generation.next.isSome = true
  revision : player.actor.model.revision.checkedNext.isSome = true

instance (player : Player P S) : Decidable player.Unexhausted :=
  decidable_of_iff (_ ∧ _) ⟨fun h => ⟨h.1, h.2⟩, fun h => ⟨h.idle, h.revision⟩⟩

/-- How the idle timer follows the model. -/
inductive Follow (a a' : Actor P S) : Prop
  | kept (htimer : a'.idleTimer = a.idleTimer)
      (hidle : a'.model.isIdleConnected = a.model.isIdleConnected)
  | armed (generation : IdleGeneration) (hnext : a.idleTimer.generation.next = some generation)
      (htimer : a'.idleTimer = ⟨generation, some generation, true⟩)
      (hidle : a'.model.isIdleConnected = true)
  | stopped (htimer : a'.idleTimer.active = false) (hidle : a'.model.isIdleConnected = false)

theorem Kept.follow {a a' : Actor P S} (h : Kept a a') : Follow a a' :=
  .kept h.idleTimer (by rw [h.model])

theorem Follow.congr {a b b' : Actor P S} (h : Follow a b) (hmodel : b'.model = b.model)
    (htimer : b'.idleTimer = b.idleTimer) : Follow a b' := by
  cases h with
  | kept hsame hidle => exact .kept (htimer.trans hsame) (hmodel ▸ hidle)
  | armed generation hnext harmed hidle =>
    exact .armed generation hnext (htimer.trans harmed) (hmodel ▸ hidle)
  | stopped hstopped hidle => exact .stopped (htimer ▸ hstopped) (hmodel ▸ hidle)

theorem Committed.follow {a a' : Actor P S} {model : PlayerModel}
    {result : Except Failure PlayerSnapshot} (h : Committed a.idleTimer a a' model result)
    (hidle : a.idleTimer.generation.next.isSome = true)
    (hactive : a.idleTimer.active = a.model.isIdleConnected) : Follow a a' := by
  obtain ⟨generation, hnext⟩ := Option.isSome_iff_exists.mp hidle
  obtain ⟨revision, -, hmodel⟩ := h.revision
  have hafter : a'.model.isIdleConnected = model.isIdleConnected := by
    rw [hmodel]
    rfl
  have htimer := h.idleTimer
  unfold IdleTimer.reconciled at htimer
  cases hbefore : a.model.isIdleConnected <;> cases hidle' : model.isIdleConnected <;>
    rw [hbefore, hidle'] at htimer
  · exact .kept htimer (by rw [hafter, hbefore, hidle'])
  · refine .armed generation hnext ?_ (hafter.trans hidle')
    rw [htimer]
    simp [IdleTimer.arm_eq hnext]
  · refine .stopped ?_ (hafter.trans hidle')
    rw [htimer, hactive, hbefore]
    simp [IdleTimer.cancel_eq hnext]
  · exact .kept htimer (by rw [hafter, hbefore, hidle'])

theorem Outcome.follow {a a' : Actor P S} {cause : Cause} {result : Except Failure PlayerSnapshot}
    (h : Outcome a cause result a') (hidle : a.idleTimer.generation.next.isSome = true)
    (hactive : a.idleTimer.active = a.model.isIdleConnected) : Follow a a' := by
  cases h with
  | unchanged _ hkept => exact hkept.follow
  | rejected _ hkept => exact hkept.follow
  | committed _ _ hcommit => exact hcommit.follow hidle hactive

theorem ShutDown.follow {a a' : Actor P S} {report : ShutdownReport} (h : ShutDown a report a')
    (hrevision : a.model.revision.checkedNext.isSome = true) : Follow a a' := by
  cases h with
  | refused _ hkept => exact hkept.follow
  | closed hmodel _ htimer hreason =>
    refine .stopped htimer ?_
    rcases hreason with hvoice | hnone
    · rw [hmodel]
      simp [PlayerModel.isIdleConnected, hvoice]
    · rw [hnone] at hrevision
      contradiction
  | left next reading hnext hmodel _ htimer =>
    refine .stopped htimer ?_
    rw [hmodel]
    rfl

theorem Expired.follow {a a' : Actor P S} {generation : IdleGeneration} {ends : Bool}
    (h : Expired a generation ends a') (hidle : a.idleTimer.generation.next.isSome = true)
    (hrevision : a.model.revision.checkedNext.isSome = true) : Follow a a' := by
  obtain ⟨next, hnext⟩ := Option.isSome_iff_exists.mp hidle
  cases h with
  | stale => exact .kept rfl rfl
  | exhausted _ _ hnone =>
    rw [hnone] at hrevision
    contradiction
  | rearmed hcurrent hbefore hmodel _ htimer =>
    have hfired : (a.idleTimer.markFired generation).generation.next = some next := by
      simp [IdleTimer.markFired, hcurrent, hnext]
    refine .armed next hnext ?_ (hmodel ▸ hbefore)
    rw [htimer, IdleTimer.arm_eq hfired]
  | left _ _ hcurrent _ _ hmodel _ htimer =>
    refine .stopped ?_ ?_
    · rw [htimer]
      simp [IdleTimer.markFired, hcurrent]
    · rw [hmodel]
      rfl

theorem Turned.follow {player player' : Player P S} {input : Input} {reply : Reply}
    (h : Turned player.actor input reply player') (hleft : player.Unexhausted)
    (hactive : player.actor.idleTimer.active = player.actor.model.isIdleConnected) :
    Follow player.actor player'.actor := by
  cases h with
  | answered _ houtcome => exact houtcome.follow hleft.idle hactive
  | replayed | invalid | observed => exact .kept rfl rfl
  | accepted haccepted => exact (haccepted.outcome.follow hleft.idle hactive).congr rfl rfl
  | failed haccepted => exact haccepted.outcome.follow hleft.idle hactive
  | stayed hexpired => exact hexpired.follow hleft.idle hleft.revision
  | expired _ hexpired => exact (hexpired.follow hleft.idle hleft.revision).congr rfl rfl
  | shutDown hshut => exact hshut.follow hleft.revision
  | requestsClosed hshut => exact hshut.follow hleft.revision

/-- A step of the history armed the generation, and in every state since then the player was
idle and the generation armed. -/
def ArmedSince (taken : List (Taken (Player P S) (Input × Reply))) (generation : IdleGeneration) :
    Prop :=
  ∃ earlier arm later, taken = earlier ++ arm :: later ∧
    arm.before.actor.idleTimer.generation ≠ generation ∧
    ∀ t ∈ arm :: later, t.after.actor.idleTimer.generation = generation ∧
      t.after.actor.idleTimer.active = true ∧ t.after.actor.model.isIdleConnected = true

/-- What the history of a run says about the timer it has led to. -/
structure Timed (taken : List (Taken (Player P S) (Input × Reply))) (player : Player P S) :
    Prop where
  active : player.actor.idleTimer.active = player.actor.model.isIdleConnected
  since : player.actor.idleTimer.active = true →
    ArmedSince taken player.actor.idleTimer.generation

theorem Timed.next {taken : List (Taken (Player P S) (Input × Reply))} {player player' : Player P S}
    {label : Input × Reply} (h : Timed taken player) (hfollow : Follow player.actor player'.actor) :
    Timed (taken ++ [⟨player, label, player'⟩]) player' := by
  cases hfollow with
  | kept htimer hidle =>
    have hactive : player'.actor.idleTimer.active = player'.actor.model.isIdleConnected := by
      rw [htimer, hidle]
      exact h.active
    refine ⟨hactive, fun harmed => ?_⟩
    have hbefore : player.actor.idleTimer.active = true := by
      rw [← htimer]
      exact harmed
    obtain ⟨earlier, arm, later, rfl, hfirst, hsince⟩ := h.since hbefore
    rw [htimer]
    refine ⟨earlier, arm, later ++ [⟨player, label, player'⟩], by simp, hfirst, ?_⟩
    intro t ht
    rcases List.mem_append.mp (List.cons_append ▸ ht) with ht | ht
    · exact hsince t ht
    · obtain rfl := List.mem_singleton.mp ht
      exact ⟨congrArg IdleTimer.generation htimer, harmed, hactive ▸ harmed⟩
  | armed generation hnext htimer hidle =>
    have hactive : player'.actor.idleTimer.active = true := by rw [htimer]
    refine ⟨hactive.trans hidle.symm, fun _ => ?_⟩
    rw [htimer]
    refine ⟨taken, ⟨player, label, player'⟩, [], rfl, ?_, ?_⟩
    · have hlater := IdleGeneration.next_toNat hnext
      intro hsame
      have hequal : player.actor.idleTimer.generation.toNat = generation.toNat :=
        congrArg IdleGeneration.toNat hsame
      omega
    · intro t ht
      obtain rfl := List.mem_singleton.mp ht
      exact ⟨congrArg IdleTimer.generation htimer, hactive, hidle⟩
  | stopped htimer hidle =>
    refine ⟨htimer.trans hidle.symm, fun harmed => ?_⟩
    rw [htimer] at harmed
    contradiction

variable [PlaybackPort P] [SnapshotPublisher S] {setup : PlayerSetup P S}
  {taken : List (Taken (Player P S) (Input × Reply))} {player : Player P S}

theorem PlayerSetup.Runs.timed (run : setup.Runs taken player)
    (hleft : ∀ t ∈ taken, t.before.Unexhausted) : Timed taken player := by
  refine run.invariant_of (C := fun t => t.before.Unexhausted)
    (I := fun taken player => Timed taken player) ?_ ?_ hleft
  · obtain ⟨publisher, events, hplayer⟩ := setup.player_eq
    rw [hplayer]
    constructor
    · rfl
    · intro harmed
      contradiction
  · intro taken s l s' hrun htimed hstep hleft
    rcases (PlayerSetup.Runs.sound hrun).step_cases hstep with hturned | ⟨rfl, -⟩
    · exact htimed.next (hturned.follow hleft htimed.active)
    · exact htimed.next (.kept rfl rfl)

/-- What an expiration may do to the player, as the step of a sound player. -/
theorem Player.Sound.expired {config : PlayerConfig} (h : player.Sound config)
    (generation : IdleGeneration) :
    (∃ ends a', Expired player.actor generation ends a' ∧
      (player.step (.idleExpired generation)).2.actor.model = a'.model ∧
      (player.step (.idleExpired generation)).2.actor.idleTimer = a'.idleTimer ∧
      (player.step (.idleExpired generation)).2.actor.calls = a'.calls) ∨
      (player.step (.idleExpired generation)).2 = player := by
  have hstep : Follows Player.step player
      (.idleExpired generation, (player.step (.idleExpired generation)).1)
      (player.step (.idleExpired generation)).2 := rfl
  rcases h.step_cases hstep with hturned | ⟨hsame, -⟩
  · refine Or.inl ?_
    generalize (player.step (.idleExpired generation)).1 = reply at hturned
    generalize (player.step (.idleExpired generation)).2 = player' at hturned
    cases hturned with
    | stayed hexpired => exact ⟨_, _, hexpired, rfl, rfl, rfl⟩
    | expired events hexpired => exact ⟨_, _, hexpired, rfl, rfl, rfl⟩
  · exact Or.inr hsame

/-- While no counter is used up, the timer is armed exactly while the player is idle. An
expiration changes the model only if it has the armed generation and the player has been idle
ever since that was armed. If the adapter refuses to disconnect, the model stays and the timer
is armed with the next generation. -/
theorem idle_expiration_safe (run : setup.Runs taken player)
    (hleft : ∀ t ∈ taken, t.before.Unexhausted) (hplayer : player.Unexhausted) :
    (player.actor.idleTimer.active = true ↔ player.actor.model.isIdleConnected = true) ∧
    (∀ generation,
      (player.step (.idleExpired generation)).2.actor.model ≠ player.actor.model →
      player.actor.idleTimer.active = true ∧ player.actor.idleTimer.generation = generation ∧
        ArmedSince taken generation) ∧
    (∀ generation calls, (player.step (.idleExpired generation)).2.actor.calls =
        player.actor.calls ++ calls → ⟨.disconnect, false⟩ ∈ calls →
      (player.step (.idleExpired generation)).2.actor.model = player.actor.model ∧
        ∃ next, player.actor.idleTimer.generation.next = some next ∧
          (player.step (.idleExpired generation)).2.actor.idleTimer =
            ⟨next, some next, true⟩) := by
  have htimed := run.timed hleft
  refine ⟨by rw [htimed.active], ?_, ?_⟩
  · intro generation hchanged
    rcases run.sound.expired generation with ⟨ends, a', hexpired, hmodel, -, -⟩ | hsame
    · rw [hmodel] at hchanged
      cases hexpired with
      | stale => contradiction
      | exhausted => contradiction
      | rearmed _ _ hkept => contradiction
      | left _ _ hcurrent hidle =>
        have hactive := htimed.active.trans hidle
        rw [hcurrent]
        exact ⟨hactive, rfl, htimed.since hactive⟩
    · rw [hsame] at hchanged
      contradiction
  · intro generation calls hcalls hrefused
    have hnew : ∀ {a' : Actor P S} {made : List CallRecord},
        a'.calls = player.actor.calls ++ made →
        (player.step (.idleExpired generation)).2.actor.calls = a'.calls →
        ⟨.disconnect, false⟩ ∈ made := by
      intro a' made hmade hstep
      rw [hcalls, hmade] at hstep
      exact List.append_cancel_left hstep ▸ hrefused
    rcases run.sound.expired generation with ⟨ends, a', hexpired, hmodel, htimer, hstep⟩ | hsame
    · cases hexpired with
      | stale => exact absurd (hnew (List.append_nil _).symm hstep) List.not_mem_nil
      | exhausted => exact absurd (hnew (List.append_nil _).symm hstep) List.not_mem_nil
      | rearmed hcurrent _ hkept _ harmed =>
        obtain ⟨next, hnext⟩ := Option.isSome_iff_exists.mp hplayer.idle
        have hfired :
            (player.actor.idleTimer.markFired generation).generation.next = some next := by
          simp [IdleTimer.markFired, hcurrent, hnext]
        refine ⟨hmodel.trans hkept, next, hnext, ?_⟩
        rw [htimer, harmed, IdleTimer.arm_eq hfired]
      | left _ _ _ _ _ _ _ _ hframe =>
        have hmem := hnew hframe.calls hstep
        simp at hmem
    · rw [hsame] at hcalls
      have hempty : calls = [] := by simpa using hcalls.symm
      rw [hempty] at hrefused
      contradiction

/-- The player is connected and idle, and the adapter refuses the first attempt to leave. -/
def refusedToLeave : List Input :=
  [.request (.connect ⟨.MIN⟩ ⟨0⟩), .idleExpired ⟨1⟩]

theorem idle_expiration_safe_refusedToLeave :
    ((PlayerSetup.after [true, true, true, false] refusedToLeave).step
        (.idleExpired ⟨2⟩)).2.actor.model ≠
      (PlayerSetup.after [true, true, true, false] refusedToLeave).actor.model ∧
      ArmedSince (record Player.step (PlayerSetup.scripted [true, true, true, false]).player
        refusedToLeave).1 ⟨2⟩ :=
  have hchanged : ((PlayerSetup.after [true, true, true, false] refusedToLeave).step
      (.idleExpired ⟨2⟩)).2.actor.model ≠
        (PlayerSetup.after [true, true, true, false] refusedToLeave).actor.model := by
    decide +kernel
  ⟨hchanged, ((idle_expiration_safe
    (run_record Player.step (PlayerSetup.scripted [true, true, true, false]).player refusedToLeave)
    (by decide +kernel) (by decide +kernel)).2.1 ⟨2⟩ hchanged).2.2⟩

end PepeAudio
