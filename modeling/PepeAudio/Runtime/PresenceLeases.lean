import PepeAudio.Runtime.GuildPresence
import PepeAudio.Lib.Since

/-!
# Leases follow the desired set

Once a guild is reported absent nothing refreshes it before it is present again.
A round calls for every guild it started with, unless it is aborted; that takes
a shutdown or the absence of any guild, not only of the one in question.
-/
namespace PepeAudio

namespace GuildPresence

abbrev PresenceStep : Type := Taken GuildPresence (PresenceEvent × List PresenceEffect)

def Refreshes (guildId : GuildId) (t : PresenceStep) : Prop := .refresh guildId ∈ t.label.2

def RepliesAbsent (guildId : GuildId) (t : PresenceStep) : Prop :=
  ∃ result, .absentReply guildId result ∈ t.label.2

/-- The actor takes up a command. -/
def Takes (command : Option PresenceCommand) (t : PresenceStep) : Prop :=
  t.label.1 = .command command ∧ t.before.phase = .listening

/-- A command that stops the heartbeat. -/
def Stops (t : PresenceStep) : Prop :=
  Takes none t ∨ Takes (some .shutdown) t ∨ ∃ guildId, Takes (some (.absent guildId)) t

def StartsRound (t : PresenceStep) : Prop :=
  t.before.heartbeat = none ∧ t.after.heartbeat ≠ none

def EndsRound (t : PresenceStep) : Prop :=
  t.before.heartbeat ≠ none ∧ t.after.heartbeat = none

instance (t : PresenceStep) : Decidable (StartsRound t) := inferInstanceAs (Decidable (_ ∧ _))

instance (t : PresenceStep) : Decidable (EndsRound t) := inferInstanceAs (Decidable (_ ∧ _))

/-- The round makes its call for a guild. -/
def Attempts (guildId : GuildId) (t : PresenceStep) : Prop := t.label = (.issue, [.refresh guildId])

/-- Nothing is about to refresh a guild. -/
def Quiet (guildId : GuildId) (presence : GuildPresence) : Prop :=
  guildId ∉ presence.guilds ∧
    ∀ round, presence.heartbeat = some round → guildId ∉ round.waiting

/-- While a guild is taken off, it is not desired, and once its lease is cleared no round runs. -/
structure Leaving (presence : GuildPresence) : Prop where
  stopping : ∀ guildId, presence.phase = .stopping (.absent guildId) → guildId ∉ presence.guilds
  clearing : ∀ guildId, presence.phase = .clearing guildId →
    guildId ∉ presence.guilds ∧ presence.heartbeat = none

variable {presence presence' : GuildPresence} {event : PresenceEvent}
  {effects : List PresenceEffect} {guildId : GuildId}

theorem Move.leaving (hmove : Move presence event effects presence') (h : presence.Leaving) :
    presence'.Leaving := by
  cases hmove with
  | idle => exact h
  | present | shutdown | closed | refreshed | cleared =>
    exact ⟨by simp, by simp⟩
  | absent leaving hphase =>
    refine ⟨?_, by simp⟩
    rintro guildId hstopping
    obtain rfl : leaving = guildId := by simpa using hstopping
    simp
  | started _ hphase => exact ⟨by simp [hphase], by simp [hphase]⟩
  | issued _ _ _ hround =>
    refine ⟨h.stopping, fun guildId hphase => ?_⟩
    simp [(h.clearing guildId hphase).2] at hround
  | completed _ _ _ hround =>
    refine ⟨h.stopping, fun guildId hphase => ?_⟩
    simp [(h.clearing guildId hphase).2] at hround
  | joined hphase => exact ⟨by simp [hphase], by simp [hphase]⟩
  | clears leaving _ hphase =>
    refine ⟨by simp, fun guildId hclearing => ?_⟩
    obtain rfl : leaving = guildId := by simpa using hclearing
    exact ⟨h.stopping leaving hphase, rfl⟩
  | clearsAll => exact ⟨by simp, by simp⟩
  | clearing _ _ _ _ _ _ _ _ hafter =>
    rcases hafter with rfl | ⟨_, _, rfl⟩ <;> exact ⟨by simp, by simp⟩

/-- A quiet guild stays quiet until it is present again, and is not refreshed. -/
theorem Move.quiet (hmove : Move presence event effects presence') (h : presence.Quiet guildId)
    (hpresent : ¬ Takes (some (.present guildId)) ⟨presence, (event, effects), presence'⟩) :
    presence'.Quiet guildId ∧ .refresh guildId ∉ effects := by
  obtain ⟨hguilds, hround⟩ := h
  cases hmove with
  | present other hphase =>
    have hne : guildId ≠ other := by
      rintro rfl
      exact hpresent ⟨rfl, hphase⟩
    exact ⟨⟨by simp [hne, hguilds], hround⟩, by simp [hne]⟩
  | absent => exact ⟨⟨by simp [hguilds], hround⟩, by simp⟩
  | started order _ _ hperm =>
    refine ⟨⟨hguilds, ?_⟩, by simp⟩
    rintro round hstarted
    obtain rfl := Option.some.inj hstarted
    exact fun hmem => hguilds (hperm.mem_iff.mp hmem)
  | issued other waiting running hbefore =>
    have hwaiting := hround _ hbefore
    simp only [List.mem_cons, not_or] at hwaiting
    refine ⟨⟨hguilds, ?_⟩, by simp [hwaiting.1]⟩
    rintro round hafter
    obtain rfl := Option.some.inj hafter
    exact hwaiting.2
  | completed _ _ round hbefore =>
    refine ⟨⟨hguilds, ?_⟩, by simp⟩
    rintro round' hafter
    obtain rfl := Option.some.inj hafter
    exact hround round hbefore
  | clearing _ _ _ _ _ _ _ heffects => exact ⟨⟨hguilds, hround⟩, (heffects guildId).1⟩
  | joined | clears | clearsAll => exact ⟨⟨hguilds, by simp⟩, by simp⟩
  | idle | shutdown | closed | refreshed | cleared => exact ⟨⟨hguilds, hround⟩, by simp⟩

/-- Whoever is told that a guild is absent finds it quiet. -/
theorem Move.absentReply (hmove : Move presence event effects presence') (h : presence.Leaving)
    {result : Except RuntimeError Unit} (hreply : .absentReply guildId result ∈ effects) :
    presence'.Quiet guildId := by
  cases hmove with
  | cleared leaving answer hphase =>
    obtain ⟨hguilds, hround⟩ := h.clearing leaving hphase
    simp only [List.mem_singleton, PresenceEffect.absentReply.injEq] at hreply
    obtain ⟨rfl, -⟩ := hreply
    exact ⟨hguilds, by simp [hround]⟩
  | clearing _ _ _ _ _ _ _ heffects => exact absurd hreply ((heffects guildId).2 result)
  | _ => simp at hreply

variable {taken : List PresenceStep}

/-- A refresh is the call of a command that reports the guild, or comes while nobody has been told
that it is absent. -/
def RefreshAllowed (guildId : GuildId) (earlier : List PresenceStep) (t : PresenceStep) : Prop :=
  Refreshes guildId t → Takes (some (.present guildId)) t ∨
    ¬ Since (RepliesAbsent guildId) (Takes (some (.present guildId))) earlier

theorem run_quiet (run : Run (Follows step) start taken presence) (guildId : GuildId) :
    presence.Leaving ∧
      (Since (RepliesAbsent guildId) (Takes (some (.present guildId))) taken →
        presence.Quiet guildId) ∧
      Justified (RefreshAllowed guildId) taken := by
  refine run.history (I := fun taken presence => presence.Leaving ∧
    (Since (RepliesAbsent guildId) (Takes (some (.present guildId))) taken →
      presence.Quiet guildId) ∧ Justified (RefreshAllowed guildId) taken)
    ⟨⟨by simp [start], by simp [start]⟩, by simp [Since], .nil _⟩ ?_
  rintro taken presence ⟨event, effects⟩ presence' _ ⟨hleaving, hquiet, hallowed⟩ hstep
  have hmove := step_moves presence event
  rw [show presence.step event = (effects, presence') from hstep] at hmove
  refine ⟨hmove.leaving hleaving, fun hsince => ?_, hallowed.append ?_⟩
  · rcases since_snoc hsince with ⟨result, hreply⟩ | ⟨hearlier, hpresent⟩
    · exact hmove.absentReply hleaving hreply
    · exact (hmove.quiet (hquiet hearlier) hpresent).1
  · intro before t after hsplit hrefresh
    cases before with
    | nil =>
      obtain ⟨rfl, -⟩ := List.cons.inj hsplit
      rw [List.append_nil]
      by_cases hpresent : Takes (some (.present guildId)) ⟨presence, (event, effects), presence'⟩
      · exact .inl hpresent
      · exact .inr fun hsince => (hmove.quiet (hquiet hsince) hpresent).2 hrefresh
    | cons => simp at hsplit

/-- What a step makes of a running round. -/
theorem Move.round (hmove : Move presence event effects presence') {round : HeartbeatRound}
    (hround : presence.heartbeat = some round) :
    (presence'.heartbeat = none ∧
      (round.waiting = [] ∨ ∃ reason, presence.phase = .stopping reason)) ∨
    ∃ round', presence'.heartbeat = some round' ∧
      (∀ guildId ∈ round.waiting, guildId ∈ round'.waiting ∨
        (event, effects) = (.issue, [.refresh guildId])) ∧
      ∀ reason, presence'.phase = .stopping reason → presence.phase = .stopping reason ∨
        Stops ⟨presence, (event, effects), presence'⟩ := by
  cases hmove with
  | idle => exact .inr ⟨round, hround, fun _ h => .inl h, fun _ h => .inl h⟩
  | present | refreshed | cleared =>
    exact .inr ⟨round, hround, fun _ h => .inl h, by simp⟩
  | absent guildId hphase =>
    exact .inr ⟨round, hround, fun _ h => .inl h, fun _ _ =>
      .inr (.inr (.inr ⟨guildId, rfl, hphase⟩))⟩
  | shutdown hphase =>
    exact .inr ⟨round, hround, fun _ h => .inl h, fun _ _ => .inr (.inr (.inl ⟨rfl, hphase⟩))⟩
  | closed hphase =>
    exact .inr ⟨round, hround, fun _ h => .inl h, fun _ _ => .inr (.inl ⟨rfl, hphase⟩)⟩
  | started _ _ hnone => simp [hround] at hnone
  | issued guildId waiting running hissued =>
    obtain rfl := Option.some.inj (hround.symm.trans hissued)
    refine .inr ⟨_, rfl, fun other hother => ?_, fun _ h => .inl h⟩
    rcases List.mem_cons.mp hother with rfl | hother
    · exact .inr rfl
    · exact .inl hother
  | completed index answer round' hcompleted =>
    obtain rfl := Option.some.inj (hround.symm.trans hcompleted)
    exact .inr ⟨_, rfl, fun _ h => .inl h, fun _ h => .inl h⟩
  | joined _ hjoined =>
    obtain rfl := Option.some.inj (hround.symm.trans hjoined)
    exact .inl ⟨rfl, .inl rfl⟩
  | clears guildId _ hphase => exact .inl ⟨rfl, .inr ⟨_, hphase⟩⟩
  | clearsAll reason _ replies hphase => exact .inl ⟨rfl, .inr ⟨_, hphase⟩⟩
  | clearing _ _ _ _ _ _ _ _ hafter =>
    refine .inr ⟨round, hround, fun _ h => .inl h, ?_⟩
    rcases hafter with rfl | ⟨_, _, rfl⟩ <;> simp

/-- A round that has started and not ended: whom it has yet to call for, and why it may stop. -/
def Underway (guildId : GuildId) (later : List PresenceStep) (presence : GuildPresence) : Prop :=
  ∃ round, presence.heartbeat = some round ∧
    (guildId ∈ round.waiting ∨ ∃ t ∈ later, Attempts guildId t) ∧
    ∀ reason, presence.phase = .stopping reason → ∃ t ∈ later, Stops t

theorem Underway.next {later : List PresenceStep} (h : Underway guildId later presence)
    (hmove : Move presence event effects presence')
    (hends : ¬ EndsRound ⟨presence, (event, effects), presence'⟩) :
    Underway guildId (later ++ [⟨presence, (event, effects), presence'⟩]) presence' := by
  obtain ⟨round, hround, hcalls, hstops⟩ := h
  rcases hmove.round hround with ⟨hended, -⟩ | ⟨round', hround', hwaiting, hstopping⟩
  · exact absurd ⟨by simp [hround], hended⟩ hends
  · refine ⟨round', hround', ?_, fun reason hreason => ?_⟩
    · rcases hcalls with hcalls | ⟨t, ht, hattempts⟩
      · rcases hwaiting guildId hcalls with hleft | hissued
        · exact .inl hleft
        · exact .inr ⟨⟨presence, (event, effects), presence'⟩, by simp, hissued⟩
      · exact .inr ⟨t, by simp [ht], hattempts⟩
    · rcases hstopping reason hreason with hbefore | hstops'
      · obtain ⟨t, ht, hstop⟩ := hstops reason hbefore
        exact ⟨t, by simp [ht], hstop⟩
      · exact ⟨_, by simp, hstops'⟩

theorem Move.starts (hmove : Move presence event effects presence')
    (hstarts : StartsRound ⟨presence, (event, effects), presence'⟩)
    (hguild : guildId ∈ presence.guilds) : Underway guildId [] presence' := by
  obtain ⟨hbefore, hafter⟩ := hstarts
  cases hmove with
  | started order hphase _ hperm =>
    exact ⟨_, rfl, .inl (hperm.mem_iff.mpr hguild), by simp [hphase]⟩
  | issued _ _ _ hround => simp [hround] at hbefore
  | completed _ _ _ hround => simp [hround] at hbefore
  | _ => simp_all

theorem run_underway (run : Run (Follows step) start taken presence) :
    ∀ earlier t later, taken = earlier ++ t :: later → StartsRound t →
      guildId ∈ t.before.guilds → (∀ t' ∈ later, ¬ EndsRound t') →
      Underway guildId later presence := by
  induction run with
  | nil => simp
  | @snoc taken presence presence' label run hstep ih =>
    intro earlier t later hsplit hstarts hguild hends
    have hmove := step_moves presence label.1
    rw [show presence.step label.1 = (label.2, presence') from hstep] at hmove
    rcases List.eq_nil_or_concat later with rfl | ⟨later', last, rfl⟩
    · obtain ⟨-, hlast⟩ := List.append_inj' hsplit rfl
      obtain rfl := List.singleton_inj.mp hlast
      exact hmove.starts hstarts hguild
    · rw [List.concat_eq_append, ← List.cons_append, ← List.append_assoc] at hsplit
      obtain ⟨rfl, hlast⟩ := List.append_inj' hsplit rfl
      obtain rfl := List.singleton_inj.mp hlast
      rw [List.concat_eq_append] at hends ⊢
      have hbefore := ih earlier t later' rfl hstarts hguild fun t' ht' => hends t' (by simp [ht'])
      exact hbefore.next hmove (hends _ (by simp))

/-- A round that ends has called for every guild it started with, or was stopped. -/
theorem round_calls (run : Run (Follows step) start taken presence)
    {earlier round later : List PresenceStep} {first last : PresenceStep}
    (hsplit : taken = earlier ++ first :: round ++ last :: later) (hstarts : StartsRound first)
    (hguild : guildId ∈ first.before.guilds) (hgoes : ∀ t ∈ round, ¬ EndsRound t)
    (hends : EndsRound last) :
    (∃ t ∈ round, Attempts guildId t) ∨ ∃ t ∈ round, Stops t := by
  rw [hsplit] at run
  obtain ⟨hbefore, hstep⟩ := run.split
  obtain ⟨left, hleft, hcalls, hstops⟩ := run_underway hbefore earlier first round rfl hstarts
    hguild hgoes
  have hmove := step_moves last.before last.label.1
  rw [show last.before.step last.label.1 = (last.label.2, last.after) from hstep] at hmove
  rcases hmove.round hleft with ⟨-, hwaiting | ⟨reason, hreason⟩⟩ | ⟨left', hleft', -⟩
  · rw [hwaiting] at hcalls
    exact .inl (hcalls.resolve_left (by simp))
  · exact .inr (hstops reason hreason)
  · exact absurd (hends.2.symm.trans hleft') (by simp)

/-- A round that nobody stops makes its calls: some steps of its own bring it to any of them. -/
theorem round_goes_on (waiting running : List GuildId) (presence : GuildPresence)
    (hround : presence.heartbeat = some ⟨waiting, running⟩) (hguild : guildId ∈ waiting) :
    ∃ events, (∀ e ∈ events, e = .issue ∨ ∃ index answer, e = .complete index answer) ∧
      ∃ t ∈ (record step presence events).1, Attempts guildId t := by
  -- Every call of the round is made once and ends once.
  induction hwork : 2 * waiting.length + running.length using Nat.strong_induction_on
    generalizing waiting running presence with
  | _ work ih =>
    cases waiting with
    | nil => simp at hguild
    | cons next waiting =>
      simp only [List.length_cons] at hwork
      by_cases hroom : running.length < HEARTBEAT_CONCURRENCY
      · have hissue : presence.step .issue = ([.refresh next],
            { presence with heartbeat := some ⟨waiting, running ++ [next]⟩ }) := by
          simp only [step, hround, if_pos hroom]
        rcases List.mem_cons.mp hguild with rfl | hguild
        · refine ⟨[.issue], by simp, ⟨presence, (.issue, (presence.step .issue).1), _⟩,
            List.mem_cons_self, ?_⟩
          rw [hissue]
          rfl
        · obtain ⟨events, hevents, t, ht, hattempts⟩ := ih (2 * waiting.length + running.length + 1)
            (by omega) waiting (running ++ [next]) (presence.step .issue).2 (by rw [hissue]) hguild
            (by simp; omega)
          exact ⟨.issue :: events, by simpa using hevents, t, List.mem_cons_of_mem _ ht, hattempts⟩
      · cases running with
        | nil => simp [HEARTBEAT_CONCURRENCY] at hroom
        | cons call running =>
          simp only [List.length_cons] at hwork
          have hcomplete : (presence.step (.complete 0 .done)).2 =
              { presence with heartbeat := some ⟨next :: waiting, running⟩ } := by
            simp only [step, hround, List.eraseIdx_zero, List.tail_cons]
          obtain ⟨events, hevents, t, ht, hattempts⟩ :=
            ih (2 * (waiting.length + 1) + running.length)
            (by omega) (next :: waiting) running (presence.step (.complete 0 .done)).2
            (by rw [hcomplete]) hguild (by simp)
          refine ⟨.complete 0 .done :: events, ?_, t, List.mem_cons_of_mem _ ht, hattempts⟩
          simpa using hevents

/-- No refresh follows an absence that was confirmed, and rounds call for every guild unless they
are stopped; a round under way is never stuck. -/
theorem leases_follow_desired (run : Run (Follows step) start taken presence) (guildId : GuildId) :
    Justified (RefreshAllowed guildId) taken ∧
      (∀ earlier first round last later, taken = earlier ++ first :: round ++ last :: later →
        StartsRound first → guildId ∈ first.before.guilds → (∀ t ∈ round, ¬ EndsRound t) →
        EndsRound last → (∃ t ∈ round, Attempts guildId t) ∨ ∃ t ∈ round, Stops t) ∧
      ∀ round, presence.heartbeat = some round → guildId ∈ round.waiting →
        ∃ events, (∀ e ∈ events, e = .issue ∨ ∃ index answer, e = .complete index answer) ∧
          ∃ t ∈ (record step presence events).1, Attempts guildId t :=
  ⟨(run_quiet run guildId).2.2,
    fun _ _ _ _ _ hsplit hstarts hguild hgoes hends =>
      round_calls run hsplit hstarts hguild hgoes hends,
    fun round hround hguild => round_goes_on round.waiting round.running presence hround hguild⟩

/-- Two guilds are present, and the absence of one ends the round before its call for the other. -/
def otherGuildLeaves : List PresenceEvent :=
  [.command (some (.present ⟨.MIN⟩)), .answer .done,
    .command (some (.present ⟨.two⟩)), .answer .done, .tick [⟨.two⟩, ⟨.MIN⟩], .issue,
    .command (some (.absent ⟨.two⟩)), .halted [], .answer .done]

theorem leases_follow_desired_leaves :
    let taken := (record step start otherGuildLeaves).1
    Justified (RefreshAllowed ⟨2, by decide⟩) taken ∧
      ((∃ t ∈ [taken[5], taken[6]], Attempts ⟨2, by decide⟩ t) ∨
        ∃ t ∈ [taken[5], taken[6]], Stops t) := by
  intro taken
  obtain ⟨hallowed, hcalls, -⟩ :=
    leases_follow_desired (run_record step start otherGuildLeaves) ⟨2, by decide⟩
  exact ⟨hallowed, hcalls (taken.take 4) taken[4] [taken[5], taken[6]] taken[7] (taken.drop 8) rfl
    (by decide) (by decide) (by decide) (by decide)⟩

theorem round_cut_short :
    ∃ taken presence, Run (Follows step) start taken presence ∧
      ∃ earlier first round last later, taken = earlier ++ first :: round ++ last :: later ∧
        StartsRound first ∧ (⟨1, by decide⟩ : GuildId) ∈ first.before.guilds ∧
        (∀ t ∈ round, ¬ EndsRound t) ∧ EndsRound last ∧
        (∀ t ∈ round, ¬ Attempts ⟨1, by decide⟩ t) ∧
        ∀ t ∈ round, ¬ Takes none t ∧ ¬ Takes (some .shutdown) t ∧
          ¬ Takes (some (.absent ⟨1, by decide⟩)) t := by
  have hrun := run_record step start otherGuildLeaves
  refine ⟨_, _, hrun, _, _, [_, _], _, _,
    show _ = [_, _, _, _] ++ _ :: [_, _] ++ _ :: [_] from rfl, ?_⟩
  unfold Attempts Takes
  decide

end GuildPresence

end PepeAudio
