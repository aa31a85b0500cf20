import PepeAudio.Bot.ActorPublication
import PepeAudio.Bot.SpawnedActors

/-!
# What holds in every run of a registry

One call at most is past the lock, so that one actor at most is in the registry
or in the hands of a call. It is the one that was spawned last, and it is ahead
of the mailbox and of the store; all actors before it have finished.
-/
namespace PepeAudio

namespace GuildPlayers

variable {P S : Type}

/-! ## Calls -/

/-- All calls have found the same lock, and at most the one at `current` is past it. -/
structure Calls (operations : List Operation) (lock : ℕ) (current : Option OperationPhase) :
    Prop where
  locks : ∀ operation ∈ operations, operation.lock = lock
  inside : (operations.filter fun operation => !operation.phase.isWaiting).map Operation.phase =
    current.toList

section Calls

variable {operations : List Operation} {lock index : ℕ} {current : Option OperationPhase}
  {phase phase' : OperationPhase}

theorem Calls.current_eq (h : Calls operations lock current)
    (hphase : operations[index]? = some ⟨lock, phase⟩) (hinside : phase.isWaiting = false) :
    current = some phase := by
  have hmem : phase ∈ current.toList := by
    rw [← h.inside]
    refine List.mem_map.mpr ⟨⟨lock, phase⟩, List.mem_filter.mpr ⟨?_, by simp [hinside]⟩, rfl⟩
    exact List.mem_of_getElem? hphase
  exact Option.mem_toList.mp hmem

theorem getElem?_split {α : Type} {l : List α} {a : α} (h : l[index]? = some a) :
    l = l.take index ++ a :: l.drop (index + 1) := by
  obtain ⟨hlt, rfl⟩ := List.getElem?_eq_some_iff.mp h
  rw [List.getElem_cons_drop, List.take_append_drop]

/-- Apart from the call at an index all calls wait, when it is the one inside or nobody is. -/
theorem Calls.others_wait (h : Calls operations lock current)
    (hphase : operations[index]? = some ⟨lock, phase⟩)
    (hcurrent : phase.isWaiting = false ∨ current = none) :
    ((operations.take index).filter fun operation => !operation.phase.isWaiting) = [] ∧
      ((operations.drop (index + 1)).filter fun operation => !operation.phase.isWaiting) = [] := by
  have hinside := h.inside
  rw [getElem?_split hphase, List.filter_append, List.filter_cons] at hinside
  rcases hcurrent with hcase | rfl
  · rw [h.current_eq hphase hcase] at hinside
    have hlength := congrArg List.length hinside
    simp only [hcase, Bool.not_false, if_true, List.map_append, List.map_cons, List.length_append,
      List.length_map, List.length_cons, Option.toList_some, List.length_nil] at hlength
    exact ⟨List.length_eq_zero_iff.mp (by omega), List.length_eq_zero_iff.mp (by omega)⟩
  · simp only [Option.toList_none, List.map_eq_nil_iff, List.append_eq_nil_iff] at hinside
    obtain ⟨hbefore, hrest⟩ := hinside
    refine ⟨hbefore, ?_⟩
    split_ifs at hrest
    exact hrest

/-- The call goes on, inside. -/
theorem Calls.goOn (h : Calls operations lock current)
    (hphase : operations[index]? = some ⟨lock, phase⟩)
    (hcurrent : phase.isWaiting = false ∨ current = none) (hinside : phase'.isWaiting = false) :
    Calls (operations.modify index ({ · with phase := phase' })) lock (some phase') := by
  obtain ⟨hbefore, hafter⟩ := h.others_wait hphase hcurrent
  obtain ⟨hlt, hget⟩ := List.getElem?_eq_some_iff.mp hphase
  constructor
  · intro operation hoperation
    rw [List.modify_eq_take_cons_drop hlt] at hoperation
    rcases List.mem_append.mp hoperation with hmem | hmem
    · exact h.locks operation (List.mem_of_mem_take hmem)
    · rcases List.mem_cons.mp hmem with rfl | hmem
      · rw [hget]
      · exact h.locks operation (List.mem_of_mem_drop hmem)
  · rw [List.modify_eq_take_cons_drop hlt, List.filter_append, List.filter_cons, hbefore, hafter]
    simp [hinside]

/-- The call returns. -/
theorem Calls.finish (h : Calls operations lock current)
    (hphase : operations[index]? = some ⟨lock, phase⟩)
    (hcurrent : phase.isWaiting = false ∨ current = none) :
    Calls (operations.eraseIdx index) lock none := by
  obtain ⟨hbefore, hafter⟩ := h.others_wait hphase hcurrent
  constructor
  · intro operation hoperation
    exact h.locks operation (List.mem_of_mem_eraseIdx hoperation)
  · rw [List.eraseIdx_eq_take_drop_succ, List.filter_append, hbefore, hafter]
    rfl

/-- With no lock in the map there is no call, and a new lock is made. -/
theorem Calls.arrive (h : Calls operations lock current) (removal : Bool) :
    let lock' := if operations.any (·.lock = lock) then lock else lock + 1
    Calls (operations ++ [⟨lock', .waiting removal⟩]) lock' current := by
  constructor
  · intro operation hoperation
    rcases List.mem_append.mp hoperation with hmem | hmem
    · have hlock := h.locks operation hmem
      have hany : operations.any (·.lock = lock) = true :=
        List.any_eq_true.mpr ⟨operation, hmem, by simp [hlock]⟩
      rw [if_pos hany, hlock]
    · rw [List.mem_singleton.mp hmem]
  · rw [List.filter_append, List.map_append, h.inside]
    simp [OperationPhase.isWaiting]

/-- Whoever gets the lock is alone inside. -/
theorem Calls.none_of_unlocked {players : GuildPlayers P S}
    (h : Calls players.operations players.lock current)
    (hphase : players.operations[index]? = some ⟨lock, phase⟩)
    (hunlocked : players.isLocked lock = false) : current = none := by
  have hlock : lock = players.lock := h.locks _ (List.mem_of_getElem? hphase)
  subst hlock
  have hnone : (players.operations.filter fun operation => !operation.phase.isWaiting) = [] := by
    refine List.filter_eq_nil_iff.mpr fun operation hmem => ?_
    have hfree := List.any_eq_false.mp hunlocked operation hmem
    simpa [h.locks operation hmem] using hfree
  have hinside := h.inside
  rw [hnone] at hinside
  exact Option.toList_eq_nil_iff.mp hinside.symm

end Calls

/-! ## Actors -/

/-- What the actors are like while `owner` is the one that is registered or in a call's hands. -/
structure Steady (environment : GuildEnvironment) (snapshots : SnapshotRuntime)
    (actors : List (SpawnedActor P S)) (owner : Option ℕ) : Prop where
  running : snapshots.Running environment.encodedLength environment.guildId
  worker : actors ≠ [] → (snapshots.workers environment.guildId).isSome
  fit : ∀ actor ∈ actors,
    actor.Fit environment.guildId (snapshots.mailboxMark environment.guildId)
  ordered : actors.Pairwise SpawnedActor.Precedes
  latest : ∀ index, owner = some index → index + 1 = actors.length
  finished : ∀ index actor, actors[index]? = some actor → owner ≠ some index → actor.Finished
  ahead : ∀ actor ∈ actors.getLast?,
    snapshots.mailboxMark environment.guildId ≤ actor.revision ∧
      snapshots.store.watermark environment.guildId ≤ actor.revision

section Steady

variable {environment : GuildEnvironment} {snapshots snapshots' : SnapshotRuntime}
  {actors : List (SpawnedActor P S)} {owner : Option ℕ} {index : ℕ}
  {actor actor' : SpawnedActor P S}

theorem Steady.persisted (h : Steady environment snapshots actors owner)
    (hrunning : snapshots'.Running environment.encodedLength environment.guildId)
    (hpersisted : snapshots.Persisted environment.guildId snapshots') :
    Steady environment snapshots' actors owner := by
  refine ⟨hrunning, fun hactors => hpersisted.present (h.worker hactors), ?_, h.ordered, h.latest,
    h.finished, ?_⟩
  · rw [hpersisted.mailbox]
    exact h.fit
  · intro actor hactor
    obtain ⟨hmailbox, hwatermark⟩ := h.ahead actor hactor
    rw [hpersisted.mailbox]
    exact ⟨hmailbox, hpersisted.bounded.trans (max_le hwatermark hmailbox)⟩

theorem pairwise_set {α : Type} {R : α → α → Prop} {l : List α} {a a' : α} (h : l.Pairwise R)
    (hget : l[index]? = some a) (hbefore : ∀ x, R x a → R x a')
    (hafter : index + 1 = l.length ∨ ∀ x, R a x → R a' x) : (l.set index a').Pairwise R := by
  obtain ⟨hlt, -⟩ := List.getElem?_eq_some_iff.mp hget
  rw [List.set_eq_take_append_cons_drop, if_pos hlt]
  rw [getElem?_split hget, List.pairwise_append, List.pairwise_cons] at h
  obtain ⟨htake, ⟨hlater, hdrop⟩, hcross⟩ := h
  rw [List.pairwise_append, List.pairwise_cons]
  refine ⟨htake, ⟨fun x hx => ?_, hdrop⟩, fun x hx y hy => ?_⟩
  · rcases hafter with hlast | hafter
    · rw [List.drop_of_length_le (by omega)] at hx
      contradiction
    · exact hafter x (hlater x hx)
  · rcases List.mem_cons.mp hy with rfl | hy
    · exact hbefore x (hcross x hx a (by simp))
    · exact hcross x hx y (List.mem_cons_of_mem _ hy)

theorem getLast?_set {α : Type} {l : List α} {a a' x : α} (hget : l[index]? = some a)
    (hlast : x ∈ (l.set index a').getLast?) :
    (index + 1 = l.length ∧ x = a' ∧ a ∈ l.getLast?) ∨ x ∈ l.getLast? := by
  obtain ⟨hlt, rfl⟩ := List.getElem?_eq_some_iff.mp hget
  rw [List.getLast?_eq_getElem?, List.length_set, List.getElem?_set] at hlast
  by_cases heq : index + 1 = l.length
  · left
    have hindex : index = l.length - 1 := by omega
    rw [if_pos hindex, if_pos (by omega)] at hlast
    refine ⟨heq, (Option.some.inj hlast).symm, ?_⟩
    rw [List.getLast?_eq_getElem?, ← hindex]
    exact List.getElem?_eq_getElem hlt
  · right
    rw [if_neg (by omega)] at hlast
    rwa [List.getLast?_eq_getElem?]

/-- One of the actors moves on, while the mailbox may move with it. -/
theorem Steady.replace (h : Steady environment snapshots actors owner)
    (hactor : actors[index]? = some actor)
    (hrunning : snapshots'.Running environment.encodedLength environment.guildId)
    (hworker : (snapshots'.workers environment.guildId).isSome)
    (hmailbox : snapshots.mailboxMark environment.guildId ≤
      snapshots'.mailboxMark environment.guildId)
    (hstore : snapshots'.store = snapshots.store)
    (hfit : actor'.Fit environment.guildId (snapshots'.mailboxMark environment.guildId))
    (hgrows : actor.Grows actor')
    (hbound : snapshots'.mailboxMark environment.guildId ≤
      max (snapshots.mailboxMark environment.guildId) actor.revision)
    (howner : owner = some index ∨
      actor'.Finished ∧ actor'.player.actor.published = actor.player.actor.published ∧
        snapshots'.mailboxMark environment.guildId =
          snapshots.mailboxMark environment.guildId) :
    Steady environment snapshots' (actors.set index actor') owner := by
  obtain ⟨hlt, -⟩ := List.getElem?_eq_some_iff.mp hactor
  refine ⟨hrunning, fun _ => hworker, ?_, ?_, ?_, ?_, ?_⟩
  · intro other hother
    rcases List.mem_or_eq_of_mem_set hother with hmem | rfl
    · exact (h.fit other hmem).mono hmailbox
    · exact hfit
  · refine pairwise_set h.ordered hactor (fun x hx => hx.grows hgrows) ?_
    rcases howner with howner | ⟨-, hpublished, -⟩
    · exact .inl (h.latest index howner)
    · exact .inr fun x hx => hx.of_published hpublished
  · rw [List.length_set]
    exact h.latest
  · intro other found hfound hnot
    rw [List.getElem?_set] at hfound
    split_ifs at hfound with hindex
    · subst hindex
      obtain rfl := Option.some.inj hfound
      exact (howner.resolve_left hnot).1
    · exact h.finished other found hfound hnot
  · intro last hlast
    rw [hstore]
    have hrevision : (actor.revision : WithBot ℕ) ≤ actor'.revision :=
      WithBot.coe_le_coe.mpr hgrows.revision
    rcases getLast?_set hactor hlast with ⟨-, rfl, hold⟩ | hold
    · obtain ⟨hmark, hwatermark⟩ := h.ahead actor hold
      exact ⟨hbound.trans (max_le (hmark.trans hrevision) hrevision), hwatermark.trans hrevision⟩
    · obtain ⟨hmark, hwatermark⟩ := h.ahead last hold
      refine ⟨?_, hwatermark⟩
      rcases howner with howner | ⟨-, -, hsame⟩
      · have hend := h.latest index howner
        have hlength := List.getLast?_eq_getElem? (l := actors)
        rw [show actors.length - 1 = index by omega, hactor] at hlength
        rw [hlength] at hold
        obtain rfl := Option.some.inj hold
        exact hbound.trans (max_le hmark le_rfl)
      · rw [hsame]
        exact hmark

/-- The actor at an index is replaced, and no snapshot is handed over. -/
theorem Steady.set (h : Steady environment snapshots actors owner)
    (hactor : actors[index]? = some actor)
    (hfit : actor'.Fit environment.guildId (snapshots.mailboxMark environment.guildId))
    (hgrows : actor.Grows actor')
    (howner : owner = some index ∨
      actor'.Finished ∧ actor'.player.actor.published = actor.player.actor.published) :
    Steady environment snapshots (actors.set index actor') owner := by
  have hworker := h.worker (List.ne_nil_of_mem (List.mem_of_getElem? hactor))
  refine h.replace hactor h.running hworker le_rfl rfl hfit hgrows (le_max_left _ _) ?_
  exact howner.imp_right fun hsame => ⟨hsame.1, hsame.2, rfl⟩

/-- An actor that is nobody's any more has finished. -/
theorem Steady.release (h : Steady environment snapshots actors (some index))
    (hfinished : ∀ actor, actors[index]? = some actor → actor.Finished) :
    Steady environment snapshots actors none := by
  refine ⟨h.running, h.worker, h.fit, h.ordered, by simp, ?_, h.ahead⟩
  intro other found hfound _
  by_cases hindex : index = other
  · subst hindex
    exact hfinished found hfound
  · exact h.finished other found hfound (by simpa using hindex)

section Turns

variable [PlaybackPort P] [SnapshotPublisher S] {input : Input}

theorem Steady.turn (h : Steady environment snapshots actors owner)
    (hactor : actors[index]? = some actor) (hidle : actor.publishing = [])
    (hinput : owner = some index ∨ actor.accepts input = true ∨ input.isPassive = true)
    (hunconnected : actor.handles ≠ .shared → (actor.turn input).2.player.actor.Unconnected) :
    Steady environment snapshots (actors.set index (actor.turn input).2) owner := by
  have hfit := h.fit actor (List.mem_of_getElem? hactor)
  obtain ⟨hafter, hgrows⟩ := hfit.turn hidle hunconnected
  refine h.set hactor hafter hgrows ?_
  by_cases howner : owner = some index
  · exact .inl howner
  · obtain ⟨hkept, hfinished⟩ :=
      (h.finished index actor hactor howner).turn hfit (hinput.resolve_left howner)
    exact .inr ⟨hfinished, hkept.published⟩

theorem Steady.passive (h : Steady environment snapshots actors owner)
    (hactor : actors[index]? = some actor) (hidle : actor.publishing = [])
    (hpassive : input.isPassive = true) :
    Steady environment snapshots (actors.set index (actor.turn input).2) owner :=
  h.turn hactor hidle (.inr (.inr hpassive))
    ((h.fit actor (List.mem_of_getElem? hactor)).passive hpassive)

end Turns

/-- The latest actor hands over a snapshot. -/
theorem Steady.publish (h : Steady environment snapshots actors owner)
    (hactor : actors[index]? = some actor) {snapshot : PlayerSnapshot}
    {publishing : List PlayerSnapshot} (hpublishing : actor.publishing = snapshot :: publishing) :
    Steady environment (publishSnapshot environment snapshot snapshots)
      (actors.set index { actor with publishing }) owner ∧ owner = some index := by
  have hmem := List.mem_of_getElem? hactor
  have hfit := h.fit actor hmem
  have howner : owner = some index := by
    by_contra hnot
    have hidle := (h.finished index actor hactor hnot).publishing
    rw [hpublishing] at hidle
    contradiction
  obtain ⟨hguild, hle⟩ := hfit.published snapshot (hfit.publishing snapshot (by simp [hpublishing]))
  obtain ⟨hrunning, hmark, hstore, hworker⟩ :=
    Running.published h.running hguild (h.worker (List.ne_nil_of_mem hmem))
  refine ⟨h.replace hactor hrunning hworker ?_ hstore (hfit.handOver hpublishing ?_ ?_)
    (.of_player_eq rfl) ?_ (.inl howner), howner⟩
  · rw [hmark]
    exact le_max_left _ _
  · rw [hmark]
    exact le_max_left _ _
  · rw [hmark]
    exact le_max_right _ _
  · rw [hmark]
    exact max_le_max_left _ (WithBot.coe_le_coe.mpr hle)

/-- A new actor starts ahead of both marks. -/
theorem Steady.spawn [SnapshotPublisher S] (h : Steady environment snapshots actors none)
    (hworker : (snapshots.workers environment.guildId).isSome) (setup : PlayerSetup P S)
    (settingsPublisher : ℕ) (hguild : setup.guildId = environment.guildId)
    (hmailbox : snapshots.mailboxMark environment.guildId < setup.initialRevision.toNat)
    (hwatermark : snapshots.store.watermark environment.guildId < setup.initialRevision.toNat) :
    Steady environment snapshots (actors ++ [.spawn setup settingsPublisher])
      (some actors.length) := by
  obtain ⟨hfit, hrevision, hpublished⟩ := SpawnedActor.spawn_fit setup settingsPublisher
    (snapshots.mailboxMark environment.guildId)
  rw [hguild] at hfit
  have hnew : ∀ earlier ∈ actors, ∀ snapshot ∈ earlier.player.actor.published,
      snapshot.revision.toNat < setup.initialRevision.toNat := by
    intro earlier hmem snapshot hsnapshot
    obtain ⟨index, hearlier⟩ := List.getElem?_of_mem hmem
    have hhanded := (h.fit earlier hmem).handed snapshot hsnapshot
    rw [(h.finished index earlier hearlier (by simp)).publishing] at hhanded
    exact WithBot.coe_lt_coe.mp ((hhanded.resolve_left (by simp)).trans_lt hmailbox)
  refine ⟨h.running, fun _ => hworker, ?_, ?_, ?_, ?_, ?_⟩
  · intro actor hactor
    rcases List.mem_append.mp hactor with hmem | hmem
    · exact h.fit actor hmem
    · rw [List.mem_singleton.mp hmem]
      exact hfit
  · rw [List.pairwise_append]
    refine ⟨h.ordered, List.pairwise_singleton _ _, ?_⟩
    intro earlier hearlier later hlater
    obtain rfl := List.mem_singleton.mp hlater
    constructor
    · intro snapshot hsnapshot
      rw [hrevision]
      exact hnew earlier hearlier snapshot hsnapshot
    · intro snapshot hsnapshot snapshot' hsnapshot'
      rw [hpublished snapshot' hsnapshot']
      exact hnew earlier hearlier snapshot hsnapshot
  · intro index hindex
    obtain rfl := Option.some.inj hindex
    simp
  · intro index actor hactor hnot
    refine h.finished index actor ?_ (by simp)
    have hlt : index < actors.length := by
      have hbound := (List.getElem?_eq_some_iff.mp hactor).1
      have hne : actors.length ≠ index := by simpa using hnot
      simp only [List.length_append, List.length_singleton] at hbound
      omega
    rwa [List.getElem?_append_left hlt] at hactor
  · intro actor hactor
    rw [List.getLast?_concat] at hactor
    obtain rfl := Option.some.inj hactor
    rw [hrevision]
    exact ⟨hmailbox.le, hwatermark.le⟩

end Steady

/-! ## Revisions of new actors -/

/-- A revision as a number, `⊥` where there is none. -/
def revisionMark : Option StateRevision → WithBot ℕ
  | some revision => revision.toNat
  | none => ⊥

/-- What the factory read of the store's watermark bounds it, together with the mailbox. -/
structure Watermarked (mailbox watermark : WithBot ℕ) (durable : Option StateRevision) : Prop where
  le : revisionMark durable ≤ watermark
  bounded : watermark ≤ max (revisionMark durable) mailbox

/-- A revision for a new actor. -/
structure Numbered (mailbox watermark : WithBot ℕ) (revision : StateRevision) : Prop where
  newer : mailbox < revision.toNat
  unwritten : watermark < revision.toNat
  initial : mailbox = ⊥ → watermark = ⊥ → revision = StateRevision.INITIAL

section Revisions

variable {mailbox watermark watermark' : WithBot ℕ} {durable volatile : Option StateRevision}
  {revision : StateRevision}

theorem Watermarked.mono (h : Watermarked mailbox watermark durable) (hle : watermark ≤ watermark')
    (hbounded : watermark' ≤ max watermark mailbox) : Watermarked mailbox watermark' durable :=
  ⟨h.le.trans hle, hbounded.trans (max_le h.bounded (le_max_right _ _))⟩

theorem Numbered.mono (h : Numbered mailbox watermark revision) (hle : watermark ≤ watermark')
    (hbounded : watermark' ≤ max watermark mailbox) : Numbered mailbox watermark' revision := by
  refine ⟨h.newer, hbounded.trans_lt (max_lt h.unwritten h.newer), ?_⟩
  intro hmailbox hwatermark
  exact h.initial hmailbox (le_bot_iff.mp (hwatermark ▸ hle))

/-- The revision after all that the factory has read. -/
theorem nextActorRevision_cases (h : nextActorRevision durable volatile = some revision) :
    (durable = none ∧ volatile = none ∧ revision = StateRevision.INITIAL) ∨
      ∃ latest : StateRevision, revisionMark durable ≤ latest.toNat ∧
        revisionMark volatile ≤ latest.toNat ∧ revision.toNat = latest.toNat + 1 ∧
        (durable = some latest ∨ volatile = some latest) := by
  unfold nextActorRevision at h
  cases durable with
  | none =>
    cases volatile with
    | none => exact .inl ⟨rfl, rfl, (Option.some.inj h).symm⟩
    | some volatile =>
      exact .inr ⟨volatile, bot_le, le_rfl, StateRevision.checkedNext_toNat h, .inr rfl⟩
  | some durable =>
    cases volatile with
    | none => exact .inr ⟨durable, le_rfl, bot_le, StateRevision.checkedNext_toNat h, .inl rfl⟩
    | some volatile =>
      right
      simp only [Option.merge_some_some] at h
      by_cases hle : durable.get ≤ volatile.get
      · rw [if_pos hle] at h
        exact ⟨volatile, WithBot.coe_le_coe.mpr (UInt64.le_iff_toNat_le.mp hle), le_rfl,
          StateRevision.checkedNext_toNat h, .inr rfl⟩
      · rw [if_neg hle] at h
        have hlt : volatile.toNat < durable.toNat :=
          UInt64.lt_iff_toNat_lt.mp (UInt64.not_le.mp hle)
        exact ⟨durable, le_rfl, WithBot.coe_le_coe.mpr hlt.le, StateRevision.checkedNext_toNat h,
          .inl rfl⟩

theorem Watermarked.numbered (h : Watermarked (revisionMark volatile) watermark durable)
    (hnext : nextActorRevision durable volatile = some revision) :
    Numbered (revisionMark volatile) watermark revision := by
  rcases nextActorRevision_cases hnext with
    ⟨rfl, rfl, rfl⟩ | ⟨latest, hdurable, hvolatile, hrevision, hof⟩
  · have hbot : watermark = ⊥ := le_bot_iff.mp (h.bounded.trans (max_le le_rfl le_rfl))
    rw [hbot]
    exact ⟨WithBot.bot_lt_coe _, WithBot.bot_lt_coe _, fun _ _ => rfl⟩
  · have hless : latest.toNat < revision.toNat := by omega
    have hlt : (latest.toNat : WithBot ℕ) < revision.toNat := WithBot.coe_lt_coe.mpr hless
    refine ⟨hvolatile.trans_lt hlt, (h.bounded.trans (max_le hdurable hvolatile)).trans_lt hlt, ?_⟩
    intro hmailbox hwatermark
    rcases hof with rfl | rfl
    · have hle := h.le
      rw [hwatermark] at hle
      exact absurd (le_bot_iff.mp hle) WithBot.coe_ne_bot
    · exact absurd hmailbox WithBot.coe_ne_bot

end Revisions

/-! ## Calls and actors together -/

/-- The actor that is in the registry or in the hands of the call that is inside. -/
def owner (registered : Option ℕ) (current : Option OperationPhase) : Option ℕ :=
  registered.or (current.bind OperationPhase.inHand)

/-- What the factory asks of a new actor. -/
def IsInitial (request : PlayerRequest) : Prop :=
  request = .snapshot ∨ ∃ envelope, request = .apply envelope ∧ envelope.command.isSetting = true

/-- Nobody but the call that creates an actor can reach it. -/
def IsUnshared (actors : List (SpawnedActor P S)) (index : ℕ) : Prop :=
  ∀ actor, actors[index]? = some actor → actor.handles ≠ .shared

/-- What is known while the call inside stands at a phase. -/
def PhaseSound (environment : GuildEnvironment) (snapshots : SnapshotRuntime)
    (actors : List (SpawnedActor P S)) (registered : Option ℕ) : OperationPhase → Prop
  | .waiting _ => True
  | .checking index => registered = some index
  | .loading | .defaulting | .viewing _ | .loaded _ => registered = none
  | .watermarked _ durable => registered = none ∧
    Watermarked (snapshots.mailboxMark environment.guildId)
      (snapshots.store.watermark environment.guildId) durable
  | .numbered _ revision => registered = none ∧
    Numbered (snapshots.mailboxMark environment.guildId)
      (snapshots.store.watermark environment.guildId) revision
  | .prepared _ revision => registered = none ∧
    Numbered (snapshots.mailboxMark environment.guildId)
      (snapshots.store.watermark environment.guildId) revision ∧
    (snapshots.workers environment.guildId).isSome
  | .asking index request commands => registered = none ∧ IsUnshared actors index ∧
    (∀ command ∈ commands, command.isSetting = true) ∧ IsInitial request
  | .answered index _ commands => registered = none ∧ IsUnshared actors index ∧
    ∀ command ∈ commands, command.isSetting = true
  | .stopping _ none => registered = none
  | .stopping index (some reply) => registered = none ∧
    ((∀ error revision, reply ≠ .shutdown ⟨some error, revision⟩) →
      ∀ actor, actors[index]? = some actor → actor.player.status ≠ .running)

structure Sound (environment : GuildEnvironment) (players : GuildPlayers P S)
    (current : Option OperationPhase) : Prop where
  calls : Calls players.operations players.lock current
  steady : Steady environment players.snapshots players.actors (owner players.registered current)
  phase : ∀ phase ∈ current,
    PhaseSound environment players.snapshots players.actors players.registered phase

section Phases

variable {environment : GuildEnvironment} {snapshots snapshots' : SnapshotRuntime}
  {actors actors' : List (SpawnedActor P S)} {registered : Option ℕ} {phase : OperationPhase}

theorem PhaseSound.persisted (h : PhaseSound environment snapshots actors registered phase)
    (hpersisted : snapshots.Persisted environment.guildId snapshots') :
    PhaseSound environment snapshots' actors registered phase := by
  cases phase with
  | watermarked settings durable =>
    refine ⟨h.1, ?_⟩
    rw [hpersisted.mailbox]
    exact h.2.mono hpersisted.rises hpersisted.bounded
  | numbered settings revision =>
    refine ⟨h.1, ?_⟩
    rw [hpersisted.mailbox]
    exact h.2.mono hpersisted.rises hpersisted.bounded
  | prepared settings revision =>
    refine ⟨h.1, ?_, hpersisted.present h.2.2⟩
    rw [hpersisted.mailbox]
    exact h.2.1.mono hpersisted.rises hpersisted.bounded
  | stopping index reply => cases reply <;> exact h
  | waiting | checking | loading | defaulting | viewing | loaded | asking | answered => exact h

/-- An actor that has ended does not start again, and keeps its handles to itself. -/
structure Remains (actor actor' : SpawnedActor P S) : Prop where
  ended : actor.player.status ≠ .running → actor'.player.status ≠ .running
  handles : actor'.handles = actor.handles

theorem PhaseSound.remains (h : PhaseSound environment snapshots actors registered phase)
    {index : ℕ} {actor actor' : SpawnedActor P S} (hactor : actors[index]? = some actor)
    (hremains : Remains actor actor') :
    PhaseSound environment snapshots (actors.set index actor') registered phase := by
  have hset : ∀ (other : ℕ) (found : SpawnedActor P S),
      (actors.set index actor')[other]? = some found →
        ∃ before, actors[other]? = some before ∧ Remains before found := by
    intro other found hfound
    rw [List.getElem?_set] at hfound
    split_ifs at hfound with hindex
    · subst hindex
      obtain rfl := Option.some.inj hfound
      exact ⟨actor, hactor, hremains⟩
    · exact ⟨found, hfound, id, rfl⟩
  have hunshared : ∀ other, IsUnshared actors other →
      IsUnshared (actors.set index actor') other := by
    intro other hbefore found hfound
    obtain ⟨before, hold, hkept⟩ := hset other found hfound
    rw [hkept.handles]
    exact hbefore before hold
  cases phase with
  | asking other request commands => exact ⟨h.1, hunshared other h.2.1, h.2.2⟩
  | answered other reply commands => exact ⟨h.1, hunshared other h.2.1, h.2.2⟩
  | stopping other reply =>
    cases reply with
    | none => exact h
    | some reply =>
      refine ⟨h.1, fun hreply found hfound => ?_⟩
      obtain ⟨before, hold, hkept⟩ := hset other found hfound
      exact hkept.ended (h.2 hreply before hold)
  | _ => exact h

/-- While there is an owner, no revision is being looked for. -/
theorem PhaseSound.owned (h : PhaseSound environment snapshots actors registered phase)
    {index : ℕ} (howner : owner registered (some phase) = some index) :
    PhaseSound environment snapshots' actors registered phase := by
  cases phase with
  | watermarked | numbered | prepared =>
    rw [h.1] at howner
    contradiction
  | stopping index reply => cases reply <;> exact h
  | _ => exact h

theorem PhaseSound.registered_none (h : PhaseSound environment snapshots actors registered phase)
    (hinside : phase.isWaiting = false) (hchecking : ∀ index, phase ≠ .checking index) :
    registered = none := by
  cases phase with
  | waiting => contradiction
  | checking index => exact absurd rfl (hchecking index)
  | loading | defaulting | viewing | loaded => exact h
  | watermarked | numbered | prepared | asking | answered => exact h.1
  | stopping index reply =>
    cases reply with
    | none => exact h
    | some reply => exact h.1

end Phases

/-! ## Steps -/

section Steps

variable {environment : GuildEnvironment} {players players' : GuildPlayers P S}
  {current : Option OperationPhase} {index lock : ℕ} {phase phase' : OperationPhase}

theorem owner_none (registered : Option ℕ) : owner registered none = registered := by
  cases registered <;> rfl

/-- The call inside goes on, and the actors with it. -/
theorem Sound.goOn (h : players.Sound environment current)
    (hphase : players.operations[index]? = some ⟨lock, phase⟩)
    (hcurrent : phase.isWaiting = false ∨ current = none) (hinside : phase'.isWaiting = false)
    (hoperations : players'.operations = players.operations) (hlock : players'.lock = players.lock)
    (hsteady : Steady environment players'.snapshots players'.actors
      (owner players'.registered (some phase')))
    (hsound :
      PhaseSound environment players'.snapshots players'.actors players'.registered phase') :
    (players'.goOn index phase').Sound environment (some phase') := by
  have hsame : lock = players.lock := h.calls.locks _ (List.mem_of_getElem? hphase)
  subst hsame
  refine ⟨?_, hsteady, ?_⟩
  · simp only [GuildPlayers.goOn, hoperations, hlock]
    exact h.calls.goOn hphase hcurrent hinside
  · intro other hother
    obtain rfl := Option.some.inj hother
    exact hsound

/-- The call inside returns. -/
theorem Sound.finish (h : players.Sound environment current)
    (hphase : players.operations[index]? = some ⟨lock, phase⟩)
    (hcurrent : phase.isWaiting = false ∨ current = none)
    (hoperations : players'.operations = players.operations) (hlock : players'.lock = players.lock)
    (hsteady : Steady environment players'.snapshots players'.actors players'.registered) :
    (players'.finish index).Sound environment none := by
  have hsame : lock = players.lock := h.calls.locks _ (List.mem_of_getElem? hphase)
  subst hsame
  refine ⟨?_, ?_, by simp⟩
  · simp only [GuildPlayers.finish, hoperations, hlock]
    exact h.calls.finish hphase hcurrent
  · rw [owner_none]
    exact hsteady

theorem Sound.inside (h : players.Sound environment current)
    (hphase : players.operations[index]? = some ⟨lock, phase⟩)
    (hinside : phase.isWaiting = false) : current = some phase ∧
      PhaseSound environment players.snapshots players.actors players.registered phase := by
  have hsame : lock = players.lock := h.calls.locks _ (List.mem_of_getElem? hphase)
  subst hsame
  have hcurrent := h.calls.current_eq hphase hinside
  exact ⟨hcurrent, h.phase phase hcurrent⟩

theorem Sound.entered (h : players.Sound environment current) {removal : Bool}
    (hphase : players.operations[index]? = some ⟨lock, .waiting removal⟩)
    (hunlocked : players.isLocked lock = false) :
    ∃ current', (players.enter index removal).Sound environment current' := by
  obtain rfl := h.calls.none_of_unlocked hphase hunlocked
  have hsteady := h.steady
  cases hregistered : players.registered with
  | none =>
    rw [hregistered] at hsteady
    cases removal with
    | true =>
      simp only [enter, hregistered]
      exact ⟨none, h.finish hphase (.inr rfl) rfl rfl (by rwa [hregistered])⟩
    | false =>
      simp only [enter, hregistered]
      exact ⟨_, h.goOn hphase (.inr rfl) rfl rfl rfl (by rwa [hregistered]) hregistered⟩
  | some actor =>
    rw [hregistered] at hsteady
    cases removal with
    | true =>
      simp only [enter, hregistered]
      have hoperations : { players with registered := none }.operations = players.operations := rfl
      exact ⟨_, h.goOn hphase (.inr rfl) rfl hoperations rfl hsteady rfl⟩
    | false =>
      simp only [enter, hregistered]
      exact ⟨_, h.goOn hphase (.inr rfl) rfl rfl rfl (by rwa [hregistered]) hregistered⟩

theorem Sound.prepares (h : players.Sound environment current) {event : RegistryEvent P S}
    (hphase : players.operations[index]? = some ⟨lock, phase⟩)
    (hprepares : players.Prepares environment event phase phase') :
    ∃ current', (players.goOn index phase').Sound environment current' := by
  have hinside : phase.isWaiting = false := by cases hprepares <;> rfl
  obtain ⟨rfl, hknown⟩ := h.inside hphase hinside
  have hsteady := h.steady
  refine ⟨some phase', h.goOn hphase (.inl hinside) (by cases hprepares <;> rfl) rfl rfl ?_ ?_⟩
  · cases hprepares <;> exact hsteady
  · cases hprepares with
    | defaulted | read | viewed => exact hknown
    | watermarked settings durable hdurable =>
      obtain ⟨revision, hrevision, hmark⟩ :=
        hsteady.running.sound.store.getSnapshotRevision environment.guildId
      obtain rfl := Except.ok.inj (hrevision.symm.trans hdurable)
      refine ⟨hknown, ?_⟩
      have heq : players.snapshots.store.watermark environment.guildId = revisionMark revision := by
        rw [hmark]
        cases revision <;> rfl
      rw [heq]
      exact ⟨le_rfl, le_max_left _ _⟩
    | numbered settings durable revision hrevision => exact ⟨hknown.1, hknown.2.numbered hrevision⟩

section Turns

variable [PlaybackPort P] [SnapshotPublisher S] {actorIndex : ℕ} {actor : SpawnedActor P S}

theorem remains_turn (actor : SpawnedActor P S) (input : Input) :
    Remains actor (actor.turn input).2 := by
  refine ⟨fun hended => ?_, rfl⟩
  rw [SpawnedActor.turn_ended hended]
  exact hended

/-- The call inside has asked an actor, which has taken its turn. -/
theorem Sound.asked (h : players.Sound environment current) {request : PlayerRequest}
    {commands : List PlayerCommand}
    (hphase : players.operations[index]? = some ⟨lock, .asking actorIndex request commands⟩)
    (hactor : players.actors[actorIndex]? = some actor) (hidle : actor.publishing = []) :
    ((players.setActor actorIndex (actor.turn (.request request)).2).goOn index
      (.answered actorIndex (actor.turn (.request request)).1 commands)).Sound environment
        (some (.answered actorIndex (actor.turn (.request request)).1 commands)) := by
  obtain ⟨rfl, hsound⟩ := h.inside hphase rfl
  obtain ⟨hnone, hunshared, hcommands, hinitial⟩ := hsound
  have hsteady := h.steady
  have howner : owner players.registered (some (.asking actorIndex request commands)) =
      some actorIndex := by rw [hnone]; rfl
  have hfit := hsteady.fit actor (List.mem_of_getElem? hactor)
  have hphase' : PhaseSound environment players.snapshots players.actors players.registered
      (.answered actorIndex (actor.turn (.request request)).1 commands) :=
    ⟨hnone, hunshared, hcommands⟩
  refine h.goOn hphase (.inl rfl) rfl rfl rfl ?_ (hphase'.remains hactor (remains_turn _ _))
  have hunconnected : actor.handles ≠ .shared →
      (actor.turn (.request request)).2.player.actor.Unconnected := by
    rcases hinitial with rfl | ⟨envelope, rfl, hsetting⟩
    · exact hfit.passive rfl
    · exact hfit.setting hsetting
  have hturned := hsteady.turn hactor hidle (.inl howner) hunconnected
  rw [howner] at hturned
  show Steady environment players.snapshots _ (owner players.registered _)
  rw [hnone]
  exact hturned

omit [PlaybackPort P] [SnapshotPublisher S] in
/-- A new actor has failed to take its settings, and is left alone. -/
theorem Sound.failed (h : players.Sound environment current) {reply : Reply}
    {commands : List PlayerCommand}
    (hphase : players.operations[index]? = some ⟨lock, .answered actorIndex reply commands⟩)
    (hactor : players.actors[actorIndex]? = some actor) (hidle : actor.publishing = []) :
    ((players.setActor actorIndex { actor with handles := .dropped }).finish index).Sound
      environment none := by
  obtain ⟨rfl, hnone, hunshared, -⟩ := h.inside hphase rfl
  have hsteady := h.steady
  have howner : owner players.registered (some (.answered actorIndex reply commands)) =
      some actorIndex := by rw [hnone]; rfl
  rw [howner] at hsteady
  have hfit := hsteady.fit actor (List.mem_of_getElem? hactor)
  have hset := hsteady.set hactor (hfit.withHandles .dropped
    (.inr (hunshared actor hactor))) (.of_player_eq rfl) (.inl rfl)
  refine h.finish hphase (.inl rfl) rfl rfl ?_
  show Steady environment players.snapshots _ players.registered
  rw [hnone]
  refine hset.release fun found hfound => ?_
  obtain ⟨hlt, -⟩ := List.getElem?_eq_some_iff.mp hactor
  rw [List.getElem?_set_self hlt] at hfound
  obtain rfl := Option.some.inj hfound
  exact ⟨hidle, .inr rfl⟩

omit [PlaybackPort P] [SnapshotPublisher S] in
/-- A new actor goes into the registry. -/
theorem Sound.registered (h : players.Sound environment current) {reply : Reply}
    (hphase : players.operations[index]? = some ⟨lock, .answered actorIndex reply []⟩)
    (hactor : players.actors[actorIndex]? = some actor) :
    (({ players with registered := some actorIndex }.setActor actorIndex
      { actor with handles := .shared }).finish index).Sound environment none := by
  obtain ⟨rfl, hnone, -⟩ := h.inside hphase rfl
  have hsteady := h.steady
  have howner : owner players.registered (some (.answered actorIndex reply [])) =
      some actorIndex := by rw [hnone]; rfl
  rw [howner] at hsteady
  have hfit := hsteady.fit actor (List.mem_of_getElem? hactor)
  exact h.finish hphase (.inl rfl) rfl rfl (hsteady.set hactor
    (hfit.withHandles .shared (.inl rfl)) (.of_player_eq rfl) (.inl rfl))

/-- The player of the registry is alive. -/
theorem Sound.alive (h : players.Sound environment current)
    (hphase : players.operations[index]? = some ⟨lock, .checking actorIndex⟩)
    (hactor : players.actors[actorIndex]? = some actor) (hidle : actor.publishing = []) :
    ((players.setActor actorIndex (actor.turn (.request .snapshot)).2).finish index).Sound
      environment none := by
  obtain ⟨rfl, hregistered⟩ := h.inside hphase rfl
  have hregistered : players.registered = some actorIndex := hregistered
  have hpassive : (Input.request .snapshot).isPassive = true := rfl
  have hturned := h.steady.passive hactor hidle hpassive
  refine h.finish hphase (.inl rfl) rfl rfl ?_
  show Steady environment players.snapshots _ players.registered
  rw [hregistered] at hturned ⊢
  exact hturned

/-- The player of the registry has ended. -/
theorem Sound.dead (h : players.Sound environment current)
    (hphase : players.operations[index]? = some ⟨lock, .checking actorIndex⟩)
    (hactor : players.actors[actorIndex]? = some actor) (hidle : actor.publishing = [])
    (hreply : ∀ snapshot, (actor.turn (.request .snapshot)).1 ≠ .snapshot snapshot) :
    ({ players.setActor actorIndex (actor.turn (.request .snapshot)).2 with
      registered := none }.goOn index .loading).Sound environment (some .loading) := by
  obtain ⟨rfl, hregistered⟩ := h.inside hphase rfl
  have hregistered : players.registered = some actorIndex := hregistered
  have hended := (h.steady.fit actor (List.mem_of_getElem? hactor)).ended_of_silent hreply
  have hpassive : (Input.request .snapshot).isPassive = true := rfl
  have hturned := h.steady.passive hactor hidle hpassive
  rw [hregistered] at hturned
  have hoperations : { players.setActor actorIndex (actor.turn (.request .snapshot)).2 with
      registered := none }.operations = players.operations := rfl
  refine h.goOn hphase (.inl rfl) rfl hoperations rfl ?_ rfl
  refine hturned.release fun found hfound => ?_
  obtain ⟨hlt, -⟩ := List.getElem?_eq_some_iff.mp hactor
  rw [List.getElem?_set_self hlt, SpawnedActor.turn_ended hended] at hfound
  obtain rfl := Option.some.inj hfound
  exact ⟨rfl, .inl hended⟩

/-- The actor that is being removed has handled the request to shut down. -/
theorem Sound.stops (h : players.Sound environment current)
    (hphase : players.operations[index]? = some ⟨lock, .stopping actorIndex none⟩)
    (hactor : players.actors[actorIndex]? = some actor) (hidle : actor.publishing = []) :
    ((players.setActor actorIndex (actor.turn (.request .shutdown)).2).goOn index
      (.stopping actorIndex (some (actor.turn (.request .shutdown)).1))).Sound environment
        (some (.stopping actorIndex (some (actor.turn (.request .shutdown)).1))) := by
  obtain ⟨rfl, hnone⟩ := h.inside hphase rfl
  have hnone : players.registered = none := hnone
  have hfit := h.steady.fit actor (List.mem_of_getElem? hactor)
  have hpassive : (Input.request .shutdown).isPassive = true := rfl
  have hturned := h.steady.passive hactor hidle hpassive
  refine h.goOn hphase (.inl rfl) rfl rfl rfl hturned ⟨hnone, fun hreply found hfound => ?_⟩
  obtain ⟨hlt, -⟩ := List.getElem?_eq_some_iff.mp hactor
  simp only [setActor, List.getElem?_set_self hlt] at hfound
  obtain rfl := Option.some.inj hfound
  exact hfit.ended_of_shutdown hreply

omit [PlaybackPort P] [SnapshotPublisher S] in
/-- The removal of an actor has failed. -/
theorem Sound.putBack (h : players.Sound environment current) {reply : Option Reply}
    (hphase : players.operations[index]? = some ⟨lock, .stopping actorIndex reply⟩) :
    ({ players with registered := some actorIndex }.finish index).Sound environment none := by
  obtain ⟨rfl, hknown⟩ := h.inside hphase rfl
  have hnone := hknown.registered_none rfl (by simp)
  have hsteady := h.steady
  rw [hnone] at hsteady
  have hoperations : { players with registered := some actorIndex }.operations =
      players.operations := rfl
  exact h.finish hphase (.inl rfl) hoperations rfl hsteady

omit [PlaybackPort P] [SnapshotPublisher S] in
/-- The actor that was removed is nobody's any more. -/
theorem Sound.removed (h : players.Sound environment current) {reply : Reply}
    (hphase : players.operations[index]? = some ⟨lock, .stopping actorIndex (some reply)⟩)
    (hactor : players.actors[actorIndex]? = some actor) (hidle : actor.publishing = [])
    (hreply : ∀ error revision, reply ≠ .shutdown ⟨some error, revision⟩) :
    (players.finish index).Sound environment none := by
  obtain ⟨rfl, hnone, hended⟩ := h.inside hphase rfl
  have hsteady := h.steady
  rw [hnone] at hsteady
  refine h.finish hphase (.inl rfl) rfl rfl ?_
  rw [hnone]
  refine hsteady.release fun found hfound => ?_
  obtain rfl := Option.some.inj (hactor.symm.trans hfound)
  exact ⟨hidle, .inl (hended hreply actor hactor)⟩

end Turns

section Moves

/-- An actor takes an input, or one of its snapshots; the calls stay where they are. -/
theorem Sound.actors (h : players.Sound environment current) {snapshots : SnapshotRuntime}
    {settings : SettingsRuntime} {actors : List (SpawnedActor P S)}
    (hsteady : Steady environment snapshots actors (owner players.registered current))
    (hphase : ∀ phase ∈ current,
      PhaseSound environment snapshots actors players.registered phase) :
    { players with snapshots, settings, actors }.Sound environment current :=
  ⟨h.calls, hsteady, hphase⟩

theorem Sound.spawned [SnapshotPublisher S] (h : players.Sound environment current)
    {settings : InitialSettings}
    {setup : PlayerSetup P S}
    (hphase : players.operations[index]? = some ⟨lock, .prepared settings setup.initialRevision⟩)
    (hguild : setup.guildId = environment.guildId) :
    ({ players with
      settings := (players.settings.step (.publisher environment.guildId settings.persistent)).2
      actors := players.actors ++
        [SpawnedActor.spawn setup players.settings.publishers.length] }.goOn index
          (.asking players.actors.length .snapshot settings.commands)).Sound environment
            (some (.asking players.actors.length .snapshot settings.commands)) := by
  obtain ⟨rfl, hnone, hnumbered, hworker⟩ := h.inside hphase rfl
  have hsteady := h.steady
  rw [hnone] at hsteady
  have hspawned := Steady.spawn hsteady hworker setup players.settings.publishers.length hguild
    hnumbered.newer hnumbered.unwritten
  have hoperations : { players with
      settings := (players.settings.step (.publisher environment.guildId settings.persistent)).2
      actors := players.actors ++ [SpawnedActor.spawn setup players.settings.publishers.length]
      }.operations = players.operations := rfl
  refine h.goOn hphase (.inl rfl) rfl hoperations rfl ?_ ⟨hnone, ?_, ?_, .inl rfl⟩
  · show Steady environment players.snapshots _ (owner players.registered _)
    rw [hnone]
    exact hspawned
  · intro actor hactor
    simp only [List.getElem?_concat_length, Option.some.injEq] at hactor
    subst hactor
    simp [SpawnedActor.spawn]
  · simp [InitialSettings.commands, PlayerCommand.isSetting]

variable [PlaybackPort P] [SnapshotPublisher S]

/-- Every move keeps what holds. -/
theorem Sound.move (h : players.Sound environment current)
    {event : RegistryEvent P S}
    (hmove : players.Move environment event players') :
    ∃ current', players'.Sound environment current' := by
  cases hmove with
  | idle => exact ⟨current, h⟩
  | arrived removal => exact ⟨current, h.calls.arrive removal, h.steady, h.phase⟩
  | entered index lock removal hphase hunlocked => exact h.entered hphase hunlocked
  | prepares index lock phase phase' hphase hprepares => exact h.prepares hphase hprepares
  | created index lock row table hphase hcreated =>
    obtain ⟨rfl, hknown⟩ := h.inside hphase rfl
    have hoperations : { players with settings := { players.settings with table } }.operations =
        players.operations := rfl
    exact ⟨_, h.goOn hphase (.inl rfl) rfl hoperations rfl h.steady hknown⟩
  | gaveUp index lock phase hphase hpreparing =>
    have hinside : phase.isWaiting = false := by cases phase <;> first | rfl | contradiction
    obtain ⟨rfl, hknown⟩ := h.inside hphase hinside
    have hnone := hknown.registered_none hinside (by rintro _ rfl; contradiction)
    have hsteady := h.steady
    have howner : owner players.registered (some phase) = none := by
      rw [hnone]
      cases phase <;> first | rfl | contradiction
    rw [howner] at hsteady
    exact ⟨none, h.finish hphase (.inl hinside) rfl rfl (by rwa [hnone])⟩
  | prepared index lock settings revision hphase hinstalled =>
    obtain ⟨rfl, hknown⟩ := h.inside hphase rfl
    obtain ⟨hrunning, hpersisted, hworker⟩ := h.steady.running.registered environment.ttl
    have hafter := hknown.persisted hpersisted
    have hoperations : { players with snapshots := (players.snapshots.step environment.encodedLength
        environment.ttl (.register environment.guildId)).2 }.operations = players.operations := rfl
    exact ⟨_, h.goOn hphase (.inl rfl) rfl hoperations rfl
      (h.steady.persisted hrunning hpersisted) ⟨hafter.1, hafter.2, hworker⟩⟩
  | spawned index lock settings setup hphase hguild => exact ⟨_, h.spawned hphase hguild⟩
  | alive index lock actorIndex actor hphase hactor hidle =>
    exact ⟨none, h.alive hphase hactor hidle⟩
  | dead index lock actorIndex actor hphase hactor hidle hreply =>
    exact ⟨_, h.dead hphase hactor hidle hreply⟩
  | busy index lock actorIndex hphase =>
    obtain ⟨rfl, hregistered⟩ := h.inside hphase rfl
    have hregistered : players.registered = some actorIndex := hregistered
    have hsteady := h.steady
    rw [hregistered] at hsteady
    exact ⟨none, h.finish hphase (.inl rfl) rfl rfl (by rwa [hregistered])⟩
  | asked index lock actorIndex request commands actor hphase hactor hidle =>
    exact ⟨_, h.asked hphase hactor hidle⟩
  | failed index lock actorIndex reply commands actor hphase hactor hidle hfailed =>
    exact ⟨none, h.failed hphase hactor hidle⟩
  | registered index lock actorIndex reply actor hphase hactor hidle hreply =>
    exact ⟨none, h.registered hphase hactor⟩
  | commands index lock actorIndex reply command commands snapshot commandId idempotencyKey actor
      hphase hactor hidle hreply =>
    obtain ⟨rfl, hnone, hunshared, hcommands⟩ := h.inside hphase rfl
    exact ⟨_, h.goOn hphase (.inl rfl) rfl rfl rfl h.steady ⟨hnone, hunshared,
      fun other hother => hcommands other (List.mem_cons_of_mem _ hother),
      .inr ⟨_, rfl, hcommands command List.mem_cons_self⟩⟩⟩
  | stops index lock actorIndex actor hphase hactor hidle => exact ⟨_, h.stops hphase hactor hidle⟩
  | putBack index lock actorIndex reply hphase => exact ⟨none, h.putBack hphase⟩
  | removed index lock actorIndex reply actor hphase hactor hidle hreply =>
    exact ⟨none, h.removed hphase hactor hidle hreply⟩
  | acted actorIndex actor input hactor hidle haccepts =>
    have hfit := h.steady.fit actor (List.mem_of_getElem? hactor)
    exact ⟨current, h.actors (h.steady.turn hactor hidle (.inr (.inl haccepts))
      (hfit.accepts haccepts)) fun phase hphase =>
        (h.phase phase hphase).remains hactor (remains_turn actor input)⟩
  | published actorIndex actor snapshot publishing hactor hpublishing =>
    obtain ⟨hsteady, howner⟩ := h.steady.publish hactor hpublishing
    refine ⟨current, h.actors hsteady fun phase hphase => ?_⟩
    obtain rfl := hphase
    exact ((h.phase phase rfl).owned howner).remains hactor ⟨id, rfl⟩
  | persistedSnapshot event hevent =>
    obtain ⟨hrunning, hpersisted⟩ := h.steady.running.persisted environment.ttl hevent
    exact ⟨current, h.actors (h.steady.persisted hrunning hpersisted) fun phase hphase =>
      (h.phase phase hphase).persisted hpersisted⟩
  | persistedSettings event hevent => exact ⟨current, h.actors h.steady h.phase⟩

end Moves

end Steps

/-! ## Runs -/

section Runs

variable [PlaybackPort P] [SnapshotPublisher S] {environment : GuildEnvironment}
  {earlier : List (Taken SnapshotStore (SnapshotCall × SnapshotReply))} {store : SnapshotStore}
  {table : GuildSettingsTable} {taken : List (Taken (GuildPlayers P S) (RegistryEvent P S))}
  {players : GuildPlayers P S}

omit [PlaybackPort P] [SnapshotPublisher S] in
/-- A process that has just started has no player. -/
theorem sound_start (hearlier : SnapshotStore.Serves environment.encodedLength earlier store)
    {snapshots : SnapshotRuntime}
    (hstart : SnapshotRuntime.start store environment.ttl = .ok snapshots) :
    (start snapshots (.start table) : GuildPlayers P S).Sound environment none := by
  have hsound : snapshots.Sound environment.encodedLength (SnapshotRuntime.Known
      environment.guildId (snapshots.mailboxMark environment.guildId)) :=
    SnapshotRuntime.sound_start hearlier.sound hstart
  unfold SnapshotRuntime.start at hstart
  split at hstart
  · contradiction
  · obtain rfl := Except.ok.inj hstart
    refine ⟨⟨by simp [start], rfl⟩, ⟨⟨hsound, rfl, rfl, ?_⟩, ?_, ?_, ?_, ?_, ?_, ?_⟩, by simp⟩
    · intro worker hworker
      contradiction
    all_goals simp [start, owner]

theorem run_sound (hearlier : SnapshotStore.Serves environment.encodedLength earlier store)
    (run : Runs environment store table taken players) :
    ∃ current, players.Sound environment current := by
  obtain ⟨snapshots, hstart, run⟩ := run
  refine run.invariant (I := fun players => ∃ current, players.Sound environment current)
    ⟨none, sound_start hearlier hstart⟩ ?_
  rintro before event after ⟨current, h⟩ rfl
  exact h.move (step_moves environment before event)

end Runs

end GuildPlayers

end PepeAudio
