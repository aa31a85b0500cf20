import PepeAudio.Worker.GuildDispatcher

/-!
# The dispatcher forgets no guild

Queues, ready list, active set and tasks are kept in step by every operation.
`Balanced` is that invariant; the loop that spawns tasks adds that guilds wait
in the ready list only while all tasks are taken.
-/
namespace PepeAudio

open GuildDispatcher

/-- The commands of one guild. -/
def ofGuild (guildId : GuildId) (commands : List ReceivedCommand) : List ReceivedCommand :=
  commands.filter fun command => command.envelope.guildId = guildId

namespace Dispatching

/-- The four structures of the dispatcher agree with each other and with its history. -/
structure Balanced (s : Dispatching) : Prop where
  serial : (s.dispatcher.tasks.map GuildTask.guildId).Nodup
  limit : s.dispatcher.tasks.length ≤ MAX_CONCURRENT_GUILDS
  active : ∀ g, g ∈ s.dispatcher.active ↔ g ∈ s.dispatcher.tasks.map GuildTask.guildId
  order : ∀ g, ofGuild g s.enqueued =
    ofGuild g s.started ++
      (GuildTask.unstarted s.dispatcher.tasks g ++ s.dispatcher.queues.waiting g)
  buffered : s.dispatcher.buffered = s.dispatcher.queues.size + s.dispatcher.inFlight
  readyNodup : s.dispatcher.ready.Nodup
  ready : ∀ g, g ∈ s.dispatcher.ready ↔
    s.dispatcher.queues.waiting g ≠ [] ∧ g ∉ s.dispatcher.active

/-- Guilds are left in the ready list only when no further task may run. -/
def Saturated (dispatcher : GuildDispatcher) : Prop :=
  dispatcher.ready = [] ∨ MAX_CONCURRENT_GUILDS ≤ dispatcher.tasks.length

theorem unstarted_append (tasks tasks' : List GuildTask) (g : GuildId) :
    GuildTask.unstarted (tasks ++ tasks') g =
      GuildTask.unstarted tasks g ++ GuildTask.unstarted tasks' g := by
  simp [GuildTask.unstarted]

theorem unstarted_cons (task : GuildTask) (tasks : List GuildTask) (g : GuildId) :
    GuildTask.unstarted (task :: tasks) g =
      (if task.guildId = g then task.remaining else []) ++ GuildTask.unstarted tasks g := by
  unfold GuildTask.unstarted
  rw [List.filter_cons]
  split <;> simp_all

theorem unstarted_eq_nil {tasks : List GuildTask} {g : GuildId}
    (h : g ∉ tasks.map GuildTask.guildId) : GuildTask.unstarted tasks g = [] := by
  have hnone : tasks.filter (fun task => task.guildId = g) = [] := by
    rw [List.filter_eq_nil_iff]
    intro task htask hguild
    exact h (List.mem_map.mpr ⟨task, htask, of_decide_eq_true hguild⟩)
  unfold GuildTask.unstarted
  rw [hnone]
  rfl

theorem Balanced.new (bufferLimit : ℕ) : (Dispatching.new bufferLimit).Balanced where
  serial := List.nodup_nil
  limit := Nat.zero_le _
  active := by simp [Dispatching.new, GuildDispatcher.new]
  order := by simp [Dispatching.new, GuildDispatcher.new, ofGuild, GuildTask.unstarted]
  buffered := rfl
  readyNodup := List.nodup_nil
  ready := by simp [Dispatching.new, GuildDispatcher.new]

theorem Balanced.push {s : Dispatching} (h : s.Balanced) (command : ReceivedCommand) :
    Balanced ⟨s.dispatcher.push command, s.enqueued ++ [command], s.started⟩ := by
  have hsize := s.dispatcher.queues.size_insert command.envelope.guildId
    (s.dispatcher.queues.waiting command.envelope.guildId ++ [command])
  rw [List.length_append, List.length_singleton] at hsize
  refine ⟨h.serial, h.limit, h.active, ?_, ?_, ?_, ?_⟩
  · intro g
    show ofGuild g (s.enqueued ++ [command]) = ofGuild g s.started ++
      (GuildTask.unstarted s.dispatcher.tasks g ++
        KeyedQueues.waiting (s.dispatcher.queues.insert _ _) g)
    have horder := h.order g
    unfold ofGuild at *
    rw [List.filter_append, horder]
    by_cases hguild : command.envelope.guildId = g
    · subst hguild
      rw [KeyedQueues.waiting_insert]
      simp
    · rw [KeyedQueues.waiting_insert_ne (Ne.symm hguild)]
      simp [hguild]
  · show s.dispatcher.buffered + 1 = KeyedQueues.size (s.dispatcher.queues.insert _ _) +
      s.dispatcher.inFlight
    have hbuffered := h.buffered
    omega
  · have hready := h.ready command.envelope.guildId
    show (if _ then _ else _ : List GuildId).Nodup
    split
    · rename_i hneeds
      rw [List.nodup_append]
      refine ⟨h.readyNodup, List.nodup_singleton _, ?_⟩
      intro g hg g' hg' hsame
      rw [List.mem_singleton.mp hg'] at hsame
      rw [hsame] at hg
      simp [hready.mp hg] at hneeds
    · exact h.readyNodup
  · intro g
    have hready := h.ready g
    show g ∈ (if _ then _ else _ : List GuildId) ↔
      KeyedQueues.waiting (s.dispatcher.queues.insert _ _) g ≠ [] ∧ g ∉ s.dispatcher.active
    by_cases hguild : g = command.envelope.guildId
    · subst hguild
      rw [KeyedQueues.waiting_insert]
      by_cases hactive : command.envelope.guildId ∈ s.dispatcher.active
      · simp [hactive, hready]
      · by_cases hempty : s.dispatcher.queues.waiting command.envelope.guildId = []
        · simp [hactive, hempty]
        · simp [hactive, hempty, hready]
    · rw [KeyedQueues.waiting_insert_ne hguild, ← hready]
      split
      · simp [hguild]
      · rfl

theorem Balanced.pushAll {s : Dispatching} (h : s.Balanced) (commands : List ReceivedCommand) :
    Balanced ⟨commands.foldl GuildDispatcher.push s.dispatcher, s.enqueued ++ commands,
      s.started⟩ := by
  induction commands generalizing s with
  | nil => simpa using h
  | cons command commands ih => simpa using ih (h.push command)

/-- The commands of a guild that waits in the ready list go to a new task. -/
theorem spawn_eq (dispatcher : GuildDispatcher) {g : GuildId}
    (hwaiting : dispatcher.queues.waiting g ≠ []) (hactive : g ∉ dispatcher.active) :
    dispatcher.spawn g =
      { dispatcher with
        queues := dispatcher.queues.insert g []
        active := insert g dispatcher.active
        tasks := dispatcher.tasks ++
          [⟨g, dispatcher.queues.waiting g, dispatcher.queues.waiting g⟩] } := by
  unfold GuildDispatcher.spawn
  rw [if_neg hactive]
  unfold KeyedQueues.waiting at *
  cases hlookup : dispatcher.queues.lookup g with
  | none => simp [hlookup] at hwaiting
  | some commands =>
    rw [hlookup] at hwaiting
    have hcommands : commands ≠ [] := hwaiting
    simp [hcommands]

theorem Balanced.spawn {s : Dispatching} (h : s.Balanced) {g : GuildId} {ready : List GuildId}
    (hready : s.dispatcher.ready = g :: ready)
    (hlimit : s.dispatcher.tasks.length < MAX_CONCURRENT_GUILDS) :
    Balanced ⟨GuildDispatcher.spawn g { s.dispatcher with ready := ready }, s.enqueued,
      s.started⟩ := by
  obtain ⟨hwaiting, hactive⟩ := (h.ready g).mp (hready ▸ List.mem_cons_self)
  have htask : g ∉ s.dispatcher.tasks.map GuildTask.guildId := fun hmem =>
    hactive ((h.active g).mpr hmem)
  have hnodup := h.readyNodup
  rw [hready, List.nodup_cons] at hnodup
  have hsize := s.dispatcher.queues.size_insert g []
  rw [spawn_eq { s.dispatcher with ready := ready } hwaiting hactive]
  refine ⟨?_, ?_, ?_, ?_, ?_, hnodup.2, ?_⟩
  · rw [List.map_append, List.nodup_append]
    refine ⟨h.serial, List.nodup_singleton _, ?_⟩
    intro g' hg' g'' hg'' hsame
    rw [List.map_singleton, List.mem_singleton] at hg''
    rw [hsame, hg''] at hg'
    exact htask hg'
  · rw [List.length_append]
    exact hlimit
  · intro g'
    have hactive' := h.active g'
    simp only [Finset.mem_insert, List.map_append, List.map_singleton, List.mem_append,
      List.mem_singleton, hactive']
    exact or_comm
  · intro g'
    have horder := h.order g'
    rw [horder]
    congr 1
    rw [unstarted_append, unstarted_cons]
    by_cases hguild : g' = g
    · subst hguild
      rw [KeyedQueues.waiting_insert, unstarted_eq_nil htask]
      simp [GuildTask.unstarted]
    · rw [KeyedQueues.waiting_insert_ne hguild]
      simp [Ne.symm hguild, GuildTask.unstarted]
  · have hbuffered := h.buffered
    unfold inFlight at *
    rw [List.map_append, List.sum_append]
    simp only [List.map_singleton, List.sum_singleton, List.length_nil] at *
    omega
  · intro g'
    have hready' := h.ready g'
    rw [hready, List.mem_cons] at hready'
    show g' ∈ ready ↔ KeyedQueues.waiting (s.dispatcher.queues.insert g []) g' ≠ [] ∧
      g' ∉ insert g s.dispatcher.active
    by_cases hguild : g' = g
    · subst hguild
      simp [hnodup.1]
    · rw [KeyedQueues.waiting_insert_ne hguild]
      simp only [hguild, false_or] at hready'
      simp [hguild, hready']

theorem Balanced.spawnLoop {s : Dispatching} (h : s.Balanced) (rounds : ℕ)
    (hrounds : s.dispatcher.ready.length ≤ rounds) :
    Balanced ⟨s.dispatcher.spawnLoop rounds, s.enqueued, s.started⟩ ∧
      Saturated (s.dispatcher.spawnLoop rounds) := by
  induction rounds generalizing s with
  | zero => exact ⟨h, Or.inl (List.length_eq_zero_iff.mp (Nat.le_zero.mp hrounds))⟩
  | succ rounds ih =>
    unfold GuildDispatcher.spawnLoop
    by_cases hlimit : s.dispatcher.tasks.length < MAX_CONCURRENT_GUILDS
    · rw [if_pos hlimit]
      cases hready : s.dispatcher.ready with
      | nil => exact ⟨h, Or.inl hready⟩
      | cons g ready =>
        have hspawned := h.spawn hready hlimit
        refine ih hspawned ?_
        obtain ⟨hwaiting, hactive⟩ := (h.ready g).mp (hready ▸ List.mem_cons_self)
        rw [spawn_eq { s.dispatcher with ready := ready } hwaiting hactive]
        rw [hready, List.length_cons] at hrounds
        exact Nat.le_of_succ_le_succ hrounds
    · rw [if_neg hlimit]
      exact ⟨h, Or.inr (Nat.le_of_not_lt hlimit)⟩

theorem Balanced.spawnReady {s : Dispatching} (h : s.Balanced) :
    Balanced ⟨s.dispatcher.spawnReady, s.enqueued, s.started⟩ ∧
      Saturated s.dispatcher.spawnReady :=
  h.spawnLoop _ le_rfl

/-- The state after a task has gone, when its guild has nothing more to do. -/
theorem release_of_nil (dispatcher : GuildDispatcher) {g : GuildId} {processed : ℕ}
    (h : dispatcher.queues.waiting g = []) :
    dispatcher.release g processed =
      { dispatcher with
        active := dispatcher.active.erase g
        buffered := dispatcher.buffered - processed
        queues := dispatcher.queues.erase g } := by
  unfold release
  unfold KeyedQueues.waiting at h
  cases hlookup : dispatcher.queues.lookup g with
  | none => simp [hlookup]
  | some queue =>
    rw [hlookup] at h
    have hqueue : queue = [] := h
    simp [hlookup, hqueue]

/-- The state after a task has gone, when more was queued for its guild meanwhile. -/
theorem release_of_waiting (dispatcher : GuildDispatcher) {g : GuildId} {processed : ℕ}
    (h : dispatcher.queues.waiting g ≠ []) :
    dispatcher.release g processed =
      { dispatcher with
        active := dispatcher.active.erase g
        buffered := dispatcher.buffered - processed
        ready := dispatcher.ready ++ [g] } := by
  unfold release
  unfold KeyedQueues.waiting at h
  cases hlookup : dispatcher.queues.lookup g with
  | none => simp [hlookup] at h
  | some queue =>
    rw [hlookup] at h
    have hqueue : queue ≠ [] := h
    simp [hlookup, hqueue]

/-- A task that has started all its commands leaves none behind. -/
theorem unstarted_of_done {earlier later : List GuildTask} {task : GuildTask}
    (hdone : task.remaining = []) (g : GuildId) :
    GuildTask.unstarted (earlier ++ task :: later) g =
      GuildTask.unstarted (earlier ++ later) g := by
  rw [unstarted_append, unstarted_append, unstarted_cons, hdone, ite_self, List.nil_append]

/-- The guilds that are active without a task that has gone. -/
theorem Balanced.mem_active_erase {s : Dispatching} (h : s.Balanced)
    {earlier later : List GuildTask} {task : GuildTask}
    (htasks : s.dispatcher.tasks = earlier ++ task :: later) (g : GuildId) :
    g ∈ s.dispatcher.active.erase task.guildId ↔
      g ∈ (earlier ++ later).map GuildTask.guildId := by
  have hserial := h.serial
  rw [htasks, List.map_append, List.map_cons, List.nodup_middle, List.nodup_cons,
    ← List.map_append] at hserial
  have hbefore := h.active g
  rw [htasks, List.map_append, List.map_cons, List.mem_append, List.mem_cons] at hbefore
  rw [Finset.mem_erase, hbefore, List.map_append, List.mem_append]
  by_cases hguild : g = task.guildId
  · subst hguild
    rw [List.map_append, List.mem_append] at hserial
    constructor
    · intro hkept
      exact absurd rfl hkept.1
    · intro hmem
      exact absurd hmem hserial.1
  · simp [hguild]

theorem Balanced.release {s : Dispatching} (h : s.Balanced) {earlier later : List GuildTask}
    {task : GuildTask} (htasks : s.dispatcher.tasks = earlier ++ task :: later)
    (hdone : task.remaining = []) :
    Balanced ⟨GuildDispatcher.release task.guildId task.commands.length
      { s.dispatcher with tasks := earlier ++ later }, s.enqueued, s.started⟩ := by
  have hserial := h.serial
  rw [htasks, List.map_append, List.map_cons, List.nodup_middle, List.nodup_cons,
    ← List.map_append] at hserial
  have hrest := hserial.2
  have hlimit : (earlier ++ later).length ≤ MAX_CONCURRENT_GUILDS := by
    have hlimit := h.limit
    rw [htasks] at hlimit
    simp only [List.length_append, List.length_cons] at *
    omega
  have hactive := h.mem_active_erase htasks
  have horder : ∀ g, GuildTask.unstarted s.dispatcher.tasks g =
      GuildTask.unstarted (earlier ++ later) g := by
    intro g
    rw [htasks]
    exact unstarted_of_done hdone g
  have hflight : s.dispatcher.inFlight = task.commands.length +
      ((earlier ++ later).map fun task => task.commands.length).sum := by
    unfold inFlight
    rw [htasks]
    simp only [List.map_append, List.map_cons, List.sum_append, List.sum_cons]
    omega
  have hguilds : task.guildId ∈ s.dispatcher.active := by
    rw [h.active, htasks]
    simp
  have hbuffered := h.buffered
  by_cases hwaiting : s.dispatcher.queues.waiting task.guildId = []
  · have hsame := KeyedQueues.waiting_erase_of_nil hwaiting
    have hsize := s.dispatcher.queues.size_erase task.guildId
    rw [hwaiting, List.length_nil] at hsize
    rw [release_of_nil { s.dispatcher with tasks := earlier ++ later } hwaiting]
    refine ⟨hrest, hlimit, hactive, ?_, ?_, h.readyNodup, ?_⟩
    · intro g
      rw [h.order g, horder g, hsame g]
    · show s.dispatcher.buffered - task.commands.length =
        KeyedQueues.size (s.dispatcher.queues.erase task.guildId) +
          ((earlier ++ later).map fun task => task.commands.length).sum
      omega
    · intro g
      show g ∈ s.dispatcher.ready ↔
        KeyedQueues.waiting (s.dispatcher.queues.erase task.guildId) g ≠ [] ∧
          g ∉ s.dispatcher.active.erase task.guildId
      rw [hsame g, h.ready g]
      by_cases hguild : g = task.guildId
      · rw [hguild, hwaiting]
        simp
      · simp [hguild]
  · rw [release_of_waiting { s.dispatcher with tasks := earlier ++ later } hwaiting]
    have hnotReady : task.guildId ∉ s.dispatcher.ready := by
      rw [h.ready]
      simp [hguilds]
    refine ⟨hrest, hlimit, hactive, ?_, ?_, ?_, ?_⟩
    · intro g
      rw [h.order g, horder g]
    · show s.dispatcher.buffered - task.commands.length = s.dispatcher.queues.size +
        ((earlier ++ later).map fun task => task.commands.length).sum
      omega
    · rw [List.nodup_append]
      refine ⟨h.readyNodup, List.nodup_singleton _, ?_⟩
      intro g hg g' hg' hsame
      rw [hsame, List.mem_singleton.mp hg'] at hg
      exact hnotReady hg
    · intro g
      show g ∈ s.dispatcher.ready ++ [task.guildId] ↔ s.dispatcher.queues.waiting g ≠ [] ∧
        g ∉ s.dispatcher.active.erase task.guildId
      rw [List.mem_append, h.ready g, List.mem_singleton]
      by_cases hguild : g = task.guildId
      · rw [hguild]
        simp [hwaiting]
      · simp [hguild]

theorem Balanced.started {s : Dispatching} (h : s.Balanced) {earlier later : List GuildTask}
    {task : GuildTask} {command : ReceivedCommand} {remaining : List ReceivedCommand}
    (htasks : s.dispatcher.tasks = earlier ++ task :: later)
    (hremaining : task.remaining = command :: remaining) :
    Balanced ⟨{ s.dispatcher with
      tasks := earlier ++ { task with remaining := remaining } :: later }, s.enqueued,
      s.started ++ [command]⟩ := by
  have hguilds : (earlier ++ { task with remaining := remaining } :: later).map GuildTask.guildId =
      s.dispatcher.tasks.map GuildTask.guildId := by
    rw [htasks]
    simp
  have hserial := h.serial
  rw [htasks, List.map_append, List.map_cons, List.nodup_middle, List.nodup_cons,
    List.mem_append, not_or] at hserial
  obtain ⟨⟨hearlier, -⟩, -⟩ := hserial
  have hbefore : ∀ g, GuildTask.unstarted s.dispatcher.tasks g = GuildTask.unstarted earlier g ++
      ((if task.guildId = g then command :: remaining else []) ++
        GuildTask.unstarted later g) := by
    intro g
    rw [htasks, unstarted_append, unstarted_cons, hremaining]
  have hguild : command.envelope.guildId = task.guildId := by
    have hmem : command ∈ ofGuild task.guildId s.enqueued := by
      rw [h.order, hbefore]
      simp
    exact of_decide_eq_true (List.mem_filter.mp hmem).2
  refine ⟨hguilds ▸ h.serial, ?_, ?_, ?_, ?_, h.readyNodup, h.ready⟩
  · have hlimit := h.limit
    rw [htasks] at hlimit
    simpa using hlimit
  · intro g
    rw [h.active g, ← hguilds]
  · intro g
    show ofGuild g s.enqueued = ofGuild g (s.started ++ [command]) ++
      (GuildTask.unstarted (earlier ++ { task with remaining := remaining } :: later) g ++
        s.dispatcher.queues.waiting g)
    rw [h.order g, hbefore, unstarted_append, unstarted_cons]
    unfold ofGuild
    rw [List.filter_append]
    by_cases hsame : task.guildId = g
    · subst hsame
      rw [unstarted_eq_nil hearlier]
      simp [hguild]
    · simp [hguild, hsame]
  · have hbuffered := h.buffered
    unfold inFlight at *
    rw [htasks] at hbuffered
    simpa using hbuffered

/-- Each event keeps the structures in step, and afterwards a guild waits in the ready list only
while every task is taken. -/
theorem Balanced.next {s s' : Dispatching} {event : DispatchEvent}
    (h : s.Balanced ∧ Saturated s.dispatcher) (hnext : Next s event s') :
    s'.Balanced ∧ Saturated s'.dispatcher := by
  obtain ⟨hbalanced, hsaturated⟩ := h
  cases hnext with
  | enqueue commands => exact (hbalanced.pushAll commands).spawnReady
  | started earlier later task command remaining htasks hremaining =>
    refine ⟨hbalanced.started htasks hremaining, ?_⟩
    unfold Saturated at *
    rw [htasks] at hsaturated
    simpa using hsaturated
  | completed earlier later task htasks hdone =>
    exact (hbalanced.release htasks hdone).spawnReady

/-- Whatever is buffered, some task runs. -/
theorem Balanced.hasActive {s : Dispatching} (h : s.Balanced) (hsaturated : Saturated s.dispatcher)
    (hbuffered : 0 < s.dispatcher.buffered) : s.dispatcher.hasActive = true := by
  by_contra hidle
  have htasks : s.dispatcher.tasks = [] := by simpa [GuildDispatcher.hasActive] using hidle
  have hflight : s.dispatcher.inFlight = 0 := by simp [inFlight, htasks]
  have hsize : 0 < s.dispatcher.queues.size := by
    have hcount := h.buffered
    omega
  obtain ⟨g, hwaiting⟩ := KeyedQueues.exists_of_size_pos hsize
  have hactive : g ∉ s.dispatcher.active := by simp [h.active, htasks]
  have hready := (h.ready g).mpr ⟨hwaiting, hactive⟩
  rcases hsaturated with hempty | hfull
  · rw [hempty] at hready
    contradiction
  · rw [htasks] at hfull
    exact absurd hfull (by decide)

variable {bufferLimit : ℕ} {taken : List (Taken Dispatching DispatchEvent)} {s : Dispatching}

/-- In every run: no guild has two tasks and no more tasks run than allowed, the commands of
each guild are those started followed by those waiting in the order they were enqueued, every
command is counted, the ready list holds exactly the guilds that wait for a task, each once, and
while anything is buffered a task runs. -/
theorem dispatcher_serves (run : Run Next (Dispatching.new bufferLimit) taken s) :
    (s.dispatcher.tasks.map GuildTask.guildId).Nodup ∧
    s.dispatcher.tasks.length ≤ MAX_CONCURRENT_GUILDS ∧
    (∀ g, ofGuild g s.enqueued = ofGuild g s.started ++
      (GuildTask.unstarted s.dispatcher.tasks g ++ s.dispatcher.queues.waiting g)) ∧
    s.dispatcher.buffered = s.dispatcher.queues.size + s.dispatcher.inFlight ∧
    s.dispatcher.ready.Nodup ∧
    (∀ g, g ∈ s.dispatcher.ready ↔ s.dispatcher.queues.waiting g ≠ [] ∧
      g ∉ s.dispatcher.tasks.map GuildTask.guildId) ∧
    (0 < s.dispatcher.buffered → s.dispatcher.hasActive = true) := by
  obtain ⟨h, hsaturated⟩ := run.invariant (I := fun s => s.Balanced ∧ Saturated s.dispatcher)
    ⟨Balanced.new bufferLimit, Or.inl rfl⟩ fun _ _ _ h hnext => Balanced.next h hnext
  refine ⟨h.serial, h.limit, h.order, h.buffered, h.readyNodup, ?_, h.hasActive hsaturated⟩
  intro g
  rw [h.ready g, h.active g]

/-- Two commands of one guild; the second waits until the first is done. -/
def inOrder : List ReceivedCommand :=
  [⟨"1-0", ⟨Uuid.fromU128 1, Uuid.fromU128 1, ⟨.MIN⟩, none, ⟨0⟩, ⟨1000⟩, .pause⟩⟩,
    ⟨"2-0", ⟨Uuid.fromU128 2, Uuid.fromU128 2, ⟨.MIN⟩, none, ⟨1⟩, ⟨1000⟩, .play⟩⟩]

theorem dispatcher_serves_inOrder :
    ((GuildDispatcher.new 64).enqueue inOrder).buffered = 2 ∧
      ((GuildDispatcher.new 64).enqueue inOrder).hasActive = true :=
  have hbuffered : ((GuildDispatcher.new 64).enqueue inOrder).buffered = 2 := by decide +kernel
  have run : Run Next (Dispatching.new 64) [⟨Dispatching.new 64, .enqueue inOrder,
      ⟨(GuildDispatcher.new 64).enqueue inOrder, inOrder, []⟩⟩]
      ⟨(GuildDispatcher.new 64).enqueue inOrder, inOrder, []⟩ := .snoc .nil (.enqueue inOrder)
  ⟨hbuffered, (dispatcher_serves run).2.2.2.2.2.2 (by rw [hbuffered]; decide)⟩

end Dispatching

end PepeAudio
