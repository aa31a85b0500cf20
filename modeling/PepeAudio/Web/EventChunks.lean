import PepeAudio.Web.EventStream

/-!
# Event streams that come in chunks

A frame is refused by its own size when it is complete, and by the size of what has come so far when
it is not. The two differ for a frame that is within the limit while a part of its delimiter is not:
whether it is refused then depends on where the chunks end.
-/
namespace PepeAudio.EventStream

theorem indexOf_some {needle xs : List Char} {i : ℕ} (h : indexOf needle xs = some i) :
    i + needle.length ≤ xs.length ∧ needle <+: xs.drop i := by
  induction xs generalizing i with
  | nil =>
    unfold indexOf at h
    split at h
    · next hempty =>
      obtain rfl := Option.some.inj h
      obtain rfl := List.isEmpty_iff.mp hempty
      simp
    · contradiction
  | cons c xs ih =>
    unfold indexOf at h
    split at h
    · next hbegins =>
      obtain rfl := Option.some.inj h
      have hneedle := List.isPrefixOf_iff_prefix.mp hbegins
      exact ⟨by simpa using hneedle.length_le, hneedle⟩
    · obtain ⟨j, hj, rfl⟩ := Option.map_eq_some_iff.mp h
      obtain ⟨hle, hneedle⟩ := ih hj
      exact ⟨by simp only [List.length_cons]; omega, hneedle⟩

theorem indexOf_append {needle xs : List Char} {i : ℕ} (ys : List Char)
    (h : indexOf needle xs = some i) : indexOf needle (xs ++ ys) = some i := by
  induction xs generalizing i with
  | nil =>
    unfold indexOf at h
    split at h
    · next hempty =>
      obtain rfl := List.isEmpty_iff.mp hempty
      obtain rfl := Option.some.inj h
      cases ys <;> rfl
    · contradiction
  | cons c xs ih =>
    have hbounds := (indexOf_some h).1
    rw [indexOf] at h
    rw [List.cons_append, indexOf]
    split at h
    · next hbegins =>
      have hneedle := List.isPrefixOf_iff_prefix.mp hbegins
      have hlonger := List.isPrefixOf_iff_prefix.mpr (hneedle.trans (List.prefix_append _ ys))
      rw [← List.cons_append, if_pos hlonger]
      exact h
    · next hbegins =>
      obtain ⟨j, hj, rfl⟩ := Option.map_eq_some_iff.mp h
      have hlater : ¬ needle.isPrefixOf (c :: (xs ++ ys)) = true := by
        intro hlater
        have hneedle : needle <+: (c :: xs) ++ ys := List.isPrefixOf_iff_prefix.mp hlater
        have hshort := List.prefix_of_prefix_length_le hneedle (List.prefix_append (c :: xs) ys)
          (by omega)
        exact hbegins (List.isPrefixOf_iff_prefix.mpr hshort)
      rw [if_neg hlater, ih hj]
      rfl

theorem indexOf_none {needle xs : List Char} (h : indexOf needle xs = none) (i : ℕ) :
    ¬ needle <+: xs.drop i := by
  induction xs generalizing i with
  | nil =>
    unfold indexOf at h
    split at h
    · contradiction
    · next hne =>
      intro hneedle
      rw [List.drop_nil, List.prefix_nil] at hneedle
      exact hne (List.isEmpty_iff.mpr hneedle)
  | cons c xs ih =>
    unfold indexOf at h
    split at h
    · contradiction
    · next hbegins =>
      cases i with
      | zero => exact fun hneedle => hbegins (List.isPrefixOf_iff_prefix.mpr hneedle)
      | succ i => exact ih (Option.map_eq_none_iff.mp h) i

/-- What is found only in a longer text ends behind the shorter one. -/
theorem indexOf_completed {needle xs ys : List Char} {i : ℕ} (h : indexOf needle xs = none)
    (h' : indexOf needle (xs ++ ys) = some i) : xs.length < i + needle.length := by
  by_contra hle
  have hneedle := (indexOf_some h').2
  rw [List.drop_append_of_le_length (by omega)] at hneedle
  have hshort := List.prefix_of_prefix_length_le hneedle (List.prefix_append (xs.drop i) ys)
    (by rw [List.length_drop]; omega)
  exact indexOf_none h i hshort

/-- No delimiter begins inside of the other one and ends before it. -/
theorem not_overlap {xs : List Char} {i : ℕ} (h : ['\n', '\n'] <+: xs.drop (i + 1))
    (h' : ['\r', '\n', '\r', '\n'] <+: xs.drop i) : False := by
  obtain ⟨behind, hbehind⟩ := h'
  obtain ⟨behind', hbehind'⟩ := h
  rw [← List.drop_drop, ← hbehind] at hbehind'
  simp at hbehind'

/-- The delimiters cut the stream. -/
def sseCutter : Cutter Char where
  find := findSseBoundary
  bounds := by
    intro xs index length h
    unfold findSseBoundary at h
    split at h
    · contradiction
    · next hlf _ =>
      obtain ⟨rfl, rfl⟩ := Prod.mk.inj (Option.some.inj h)
      exact ⟨by omega, (indexOf_some hlf).1⟩
    · next hcr =>
      obtain ⟨rfl, rfl⟩ := Prod.mk.inj (Option.some.inj h)
      exact ⟨by omega, (indexOf_some hcr).1⟩
    · next hlf hcr =>
      split at h
      · obtain ⟨rfl, rfl⟩ := Prod.mk.inj (Option.some.inj h)
        exact ⟨by omega, (indexOf_some hcr).1⟩
      · obtain ⟨rfl, rfl⟩ := Prod.mk.inj (Option.some.inj h)
        exact ⟨by omega, (indexOf_some hlf).1⟩
  append := by
    intro xs cut ys h
    unfold findSseBoundary at h ⊢
    cases hlf : indexOf ['\n', '\n'] xs with
    | none =>
      cases hcr : indexOf ['\r', '\n', '\r', '\n'] xs with
      | none =>
        rw [hlf, hcr] at h
        contradiction
      | some carriageReturn =>
        rw [hlf, hcr] at h
        have hbounds := (indexOf_some hcr).1
        rw [indexOf_append ys hcr]
        cases hlater : indexOf ['\n', '\n'] (xs ++ ys) with
        | none => exact h
        | some lineFeed =>
          have hbehind := indexOf_completed hlf hlater
          simp only [List.length_cons, List.length_nil] at hbounds hbehind
          simp only
          rw [if_pos (by omega)]
          exact h
    | some lineFeed =>
      have hbounds := (indexOf_some hlf).1
      have hfound := indexOf_append ys hlf
      cases hcr : indexOf ['\r', '\n', '\r', '\n'] xs with
      | none =>
        rw [hlf, hcr] at h
        rw [hfound]
        cases hlater : indexOf ['\r', '\n', '\r', '\n'] (xs ++ ys) with
        | none => exact h
        | some carriageReturn =>
          have hbehind := indexOf_completed hcr hlater
          simp only [List.length_cons, List.length_nil] at hbounds hbehind
          simp only
          rw [if_neg ?_]
          · exact h
          · intro hlt
            obtain rfl : lineFeed = carriageReturn + 1 := by omega
            exact not_overlap (indexOf_some hfound).2 (indexOf_some hlater).2
      | some carriageReturn =>
        rw [hlf, hcr] at h
        rw [hfound, indexOf_append ys hcr]
        exact h
  completed := by
    intro xs ys index length hnone hsome
    have hlf : indexOf ['\n', '\n'] xs = none := by
      cases hlf : indexOf ['\n', '\n'] xs with
      | none => rfl
      | some lineFeed =>
        cases hcr : indexOf ['\r', '\n', '\r', '\n'] xs with
        | none => simp [findSseBoundary, hlf, hcr] at hnone
        | some carriageReturn =>
          simp only [findSseBoundary, hlf, hcr] at hnone
          split at hnone <;> contradiction
    have hcr : indexOf ['\r', '\n', '\r', '\n'] xs = none := by
      cases hcr : indexOf ['\r', '\n', '\r', '\n'] xs with
      | none => rfl
      | some carriageReturn => simp [findSseBoundary, hlf, hcr] at hnone
    unfold findSseBoundary at hsome
    split at hsome
    · contradiction
    · next hlater _ =>
      obtain ⟨rfl, rfl⟩ := Prod.mk.inj (Option.some.inj hsome)
      exact indexOf_completed hlf hlater
    · next hlater =>
      obtain ⟨rfl, rfl⟩ := Prod.mk.inj (Option.some.inj hsome)
      exact indexOf_completed hcr hlater
    · next hlater hlater' =>
      split at hsome
      · obtain ⟨rfl, rfl⟩ := Prod.mk.inj (Option.some.inj hsome)
        exact indexOf_completed hcr hlater'
      · obtain ⟨rfl, rfl⟩ := Prod.mk.inj (Option.some.inj hsome)
        exact indexOf_completed hlf hlater

theorem findSseBoundary_nil : findSseBoundary [] = none := rfl

/-- A delimiter is made of as many bytes as characters. -/
theorem utf8_take_delimiter {xs : List Char} {index length k : ℕ}
    (h : findSseBoundary xs = some (index, length)) (hk : k ≤ length) :
    (utf8 (xs.take (index + k))).length = (utf8 (xs.take index)).length + k := by
  have hdelimiter : ∃ delimiter, delimiter.length = length ∧ delimiter <+: xs.drop index
      ∧ ∀ c ∈ delimiter, c.toNat < 0x80 := by
    have hlineFeed : ∀ c ∈ ['\n', '\n'], c.toNat < 0x80 := by simp
    have hreturn : ∀ c ∈ ['\r', '\n', '\r', '\n'], c.toNat < 0x80 := by simp
    unfold findSseBoundary at h
    split at h
    · cases h
    · next hlf _ =>
      obtain ⟨rfl, rfl⟩ := Prod.mk.inj (Option.some.inj h)
      exact ⟨['\n', '\n'], rfl, (indexOf_some hlf).2, hlineFeed⟩
    · next hcr =>
      obtain ⟨rfl, rfl⟩ := Prod.mk.inj (Option.some.inj h)
      exact ⟨['\r', '\n', '\r', '\n'], rfl, (indexOf_some hcr).2, hreturn⟩
    · next hlf hcr =>
      split at h
      · obtain ⟨rfl, rfl⟩ := Prod.mk.inj (Option.some.inj h)
        exact ⟨['\r', '\n', '\r', '\n'], rfl, (indexOf_some hcr).2, hreturn⟩
      · obtain ⟨rfl, rfl⟩ := Prod.mk.inj (Option.some.inj h)
        exact ⟨['\n', '\n'], rfl, (indexOf_some hlf).2, hlineFeed⟩
  obtain ⟨delimiter, rfl, ⟨behind, hbehind⟩, hascii⟩ := hdelimiter
  rw [List.take_add, ← hbehind, List.take_append_of_le_length hk, utf8_append,
    List.length_append, length_utf8_of_ascii fun c hc => hascii c (List.mem_of_mem_take hc),
    List.length_take, Nat.min_eq_left hk]

/-- What has come of a frame before its delimiter is complete. -/
theorem utf8_partial_le {xs ys : List Char} {index length : ℕ}
    (hnone : findSseBoundary xs = none) (h : findSseBoundary (xs ++ ys) = some (index, length)) :
    (utf8 xs).length ≤ (utf8 ((xs ++ ys).take index)).length + (length - 1) := by
  have hbounds := sseCutter.bounds h
  have hlt := sseCutter.completed hnone h
  rw [← utf8_take_delimiter h (Nat.sub_le length 1)]
  obtain ⟨more, hmore⟩ : xs <+: (xs ++ ys).take (index + (length - 1)) := by
    rw [List.take_append, List.take_of_length_le (by omega)]
    exact List.prefix_append _ _
  rw [← hmore, utf8_append, List.length_append]
  omega

variable (action : List Char → ℕ → PlayerSseAction)

/-- What a stream of these frames delivers and how it ends, its rest being `left`, when every frame
comes in one chunk. -/
def outcome (left : List Char) : List (List Char × ℕ) → ℕ → List JsValue × Ending
  | [], _ =>
    ([], if (utf8 left).length > MAX_PLAYER_EVENT_FRAME_BYTES then .frameLimit else .closed)
  | (frame, _) :: frames, revision =>
    if (utf8 frame).length > MAX_PLAYER_EVENT_FRAME_BYTES then ([], .frameLimit)
    else match action frame revision with
      | .resync => ([], .resync)
      | .ignore => outcome left frames revision
      | .snapshot revision snapshot =>
        let (delivered, ending) := outcome left frames revision
        (snapshot :: delivered, ending)

/-- Frames are ignored up to one over the limit. -/
def SilentLimit (left : List Char) : List (List Char × ℕ) → ℕ → Prop
  | [], _ => (utf8 left).length > MAX_PLAYER_EVENT_FRAME_BYTES
  | (frame, _) :: frames, revision =>
    (utf8 frame).length > MAX_PLAYER_EVENT_FRAME_BYTES
      ∨ (action frame revision = .ignore ∧ SilentLimit left frames revision)

/-- Of the frames that are reached, none is within the limit while it is over the limit with its
delimiter but for the last byte, unless the stream would end at the limit without a trace of it. -/
def Uniform (left : List Char) : List (List Char × ℕ) → ℕ → Prop
  | [], _ => True
  | (frame, delimiterBytes) :: frames, revision =>
    (utf8 frame).length > MAX_PLAYER_EVENT_FRAME_BYTES
      ∨ (((utf8 frame).length + (delimiterBytes - 1) > MAX_PLAYER_EVENT_FRAME_BYTES →
          SilentLimit action left ((frame, delimiterBytes) :: frames) revision)
        ∧ match action frame revision with
          | .resync => True
          | .ignore => Uniform left frames revision
          | .snapshot revision _ => Uniform left frames revision)

variable {action} {left text : List Char} {frames : List (List Char × ℕ)}

theorem outcome_eq_frameLimit_iff (revision : ℕ) :
    outcome action left frames revision = ([], .frameLimit)
      ↔ SilentLimit action left frames revision := by
  induction frames with
  | nil =>
    unfold outcome SilentLimit
    split
    · next hlong => exact ⟨fun _ => hlong, fun _ => rfl⟩
    · next hshort => exact ⟨fun h => (nomatch h), fun h => absurd h hshort⟩
  | cons head frames ih =>
    obtain ⟨frame, delimiterBytes⟩ := head
    unfold outcome SilentLimit
    by_cases hlong : (utf8 frame).length > MAX_PLAYER_EVENT_FRAME_BYTES
    · simp [hlong]
    · cases haction : action frame revision with
      | resync => simp [hlong]
      | ignore => simpa [hlong] using ih
      | snapshot next snapshot => simp [hlong]

/-- After the frames that have come the stream goes on with the others. -/
structure GoesOn (action : List Char → ℕ → PlayerSseAction) (frames : List (List Char × ℕ))
    (left : List Char) (revision : ℕ) (delivered : List JsValue) (next : Reader) : Prop where
  pending : next.pending = left
  bytes : next.pendingBytes = (utf8 left).length
  outcome : ∀ more left', EventStream.outcome action left' (frames ++ more) revision
    = (delivered ++ (EventStream.outcome action left' more next.currentRevision).1,
      (EventStream.outcome action left' more next.currentRevision).2)
  uniform : ∀ more left', Uniform action left' (frames ++ more) revision →
    Uniform action left' more next.currentRevision

/-- The loop ends the stream as its frames do, or goes on behind them. -/
def Drained (action : List Char → ℕ → PlayerSseAction) (frames : List (List Char × ℕ))
    (left : List Char) (revision : ℕ) : List JsValue × Reader × Option Ending → Prop
  | (delivered, _, some ending) =>
    ∀ more left', outcome action left' (frames ++ more) revision = (delivered, ending)
  | (delivered, next, none) => GoesOn action frames left revision delivered next

section Drained

variable {frame : List Char} {delimiterBytes revision : ℕ}

theorem Drained.ignore {result : List JsValue × Reader × Option Ending}
    (hshort : ¬ (utf8 frame).length > MAX_PLAYER_EVENT_FRAME_BYTES)
    (haction : action frame revision = .ignore) (h : Drained action frames left revision result) :
    Drained action ((frame, delimiterBytes) :: frames) left revision result := by
  obtain ⟨delivered, next, ending⟩ := result
  cases ending with
  | some ending =>
    intro more left'
    rw [List.cons_append, outcome, if_neg hshort, haction]
    exact h more left'
  | none =>
    refine ⟨h.pending, h.bytes, ?_, ?_⟩
    · intro more left'
      rw [List.cons_append, outcome, if_neg hshort, haction]
      exact h.outcome more left'
    · intro more left' huniform
      rw [List.cons_append, Uniform, haction] at huniform
      rcases huniform with hlong | ⟨-, hmore⟩
      · contradiction
      · exact h.uniform more left' hmore

theorem Drained.snapshot {delivered : List JsValue} {rest : Reader × Option Ending}
    {newer : ℕ} {snapshot : JsValue}
    (hshort : ¬ (utf8 frame).length > MAX_PLAYER_EVENT_FRAME_BYTES)
    (haction : action frame revision = .snapshot newer snapshot)
    (h : Drained action frames left newer (delivered, rest)) :
    Drained action ((frame, delimiterBytes) :: frames) left revision
      (snapshot :: delivered, rest) := by
  obtain ⟨next, ending⟩ := rest
  cases ending with
  | some ending =>
    intro more left'
    rw [List.cons_append, outcome, if_neg hshort, haction]
    simp only [h more left']
  | none =>
    refine ⟨h.pending, h.bytes, ?_, ?_⟩
    · intro more left'
      rw [List.cons_append, outcome, if_neg hshort, haction]
      simp only [h.outcome more left', List.cons_append]
    · intro more left' huniform
      rw [List.cons_append, Uniform, haction] at huniform
      rcases huniform with hlong | ⟨-, hmore⟩
      · contradiction
      · exact h.uniform more left' hmore

end Drained

variable (action) in
theorem drain_framed (h : sseCutter.Framed text frames left) (reader : Reader)
    (hpending : reader.pending = text) (hbytes : reader.pendingBytes = (utf8 text).length)
    {steps : ℕ} (hsteps : text.length < steps) :
    Drained action frames left reader.currentRevision (drain action steps reader) := by
  induction h generalizing reader steps with
  | @rest text hnone =>
    obtain ⟨steps, rfl⟩ : ∃ steps', steps = steps' + 1 := ⟨steps - 1, by omega⟩
    have hfind : findSseBoundary reader.pending = none := hpending ▸ hnone
    rw [drain, hfind]
    exact ⟨hpending, hbytes, fun more left' => rfl, fun more left' huniform => huniform⟩
  | @frame text index length frames left hsome _ ih =>
    obtain ⟨steps, rfl⟩ : ∃ steps', steps = steps' + 1 := ⟨steps - 1, by omega⟩
    have hbounds := sseCutter.bounds hsome
    have hfind : findSseBoundary reader.pending = some (index, length) := hpending ▸ hsome
    rw [drain, hfind, hpending]
    simp only
    by_cases hlong : (utf8 (text.take index)).length > MAX_PLAYER_EVENT_FRAME_BYTES
    · rw [if_pos hlong]
      intro more left'
      rw [List.cons_append, outcome, if_pos hlong]
    · rw [if_neg hlong]
      have hrest : (utf8 text).length - ((utf8 (text.take index)).length + length)
          = (utf8 (text.drop (index + length))).length := by
        have hframe := utf8_take_delimiter hsome (Nat.le_refl length)
        have hsplit := congrArg (fun cs => (utf8 cs).length)
          (List.take_append_drop (index + length) text)
        simp only [utf8_append, List.length_append] at hsplit
        omega
      have hshorter : (text.drop (index + length)).length < steps := by
        rw [List.length_drop]
        omega
      cases haction : action (text.take index) reader.currentRevision with
      | resync =>
        intro more left'
        rw [List.cons_append, outcome, if_neg hlong, haction]
      | ignore =>
        exact .ignore hlong haction (ih { reader with
          pending := text.drop (index + length)
          pendingBytes := reader.pendingBytes - ((utf8 (text.take index)).length + length) }
          rfl (hbytes ▸ hrest) hshorter)
      | snapshot revision snapshot =>
        exact .snapshot hlong haction (ih {
          pending := text.drop (index + length)
          pendingBytes := reader.pendingBytes - ((utf8 (text.take index)).length + length)
          currentRevision := revision } rfl (hbytes ▸ hrest) hshorter)

/-- A text that is over the limit without a complete frame ends a uniform stream there. -/
theorem outcome_of_long {text more : List Char} {revision : ℕ}
    (hnone : findSseBoundary text = none)
    (hlong : (utf8 text).length > MAX_PLAYER_EVENT_FRAME_BYTES)
    (h : sseCutter.Framed (text ++ more) frames left)
    (huniform : Uniform action left frames revision) :
    outcome action left frames revision = ([], .frameLimit) := by
  rw [outcome_eq_frameLimit_iff]
  generalize hwhole : text ++ more = whole at h
  cases h with
  | rest =>
    have hle : (utf8 text).length ≤ (utf8 left).length := by
      rw [← hwhole, utf8_append, List.length_append]
      omega
    unfold SilentLimit
    omega
  | @frame _ index length frames left hsome _ =>
    rw [← hwhole] at hsome huniform ⊢
    have hle := utf8_partial_le hnone hsome
    rcases huniform with hframe | ⟨htight, -⟩
    · exact .inl hframe
    · exact htight (by omega)

/-- However a uniform stream is cut into chunks, it delivers and ends as its frames say. -/
theorem readChunks_uniform (chunks : List (List Char)) (reader : Reader)
    (hnone : findSseBoundary reader.pending = none)
    (hbytes : reader.pendingBytes = (utf8 reader.pending).length)
    (hshort : ¬ (utf8 reader.pending).length > MAX_PLAYER_EVENT_FRAME_BYTES)
    (h : sseCutter.Framed (reader.pending ++ chunks.flatten) frames left)
    (huniform : Uniform action left frames reader.currentRevision) :
    readChunks action reader chunks = outcome action left frames reader.currentRevision := by
  induction chunks generalizing reader frames with
  | nil =>
    rw [List.flatten_nil, List.append_nil] at h
    obtain ⟨rfl, rfl⟩ := h.unique (.rest hnone)
    rw [readChunks, outcome, if_neg hshort]
  | cons value chunks ih =>
    rw [List.flatten_cons, ← List.append_assoc] at h
    obtain ⟨fs₁, left₁, fs₂, hfirst, hmore, rfl⟩ := h.split
    have hdrained := drain_framed action hfirst
      ⟨reader.pending ++ value, reader.pendingBytes + (utf8 value).length, reader.currentRevision⟩
      rfl (by rw [hbytes, utf8_append, List.length_append]) (Nat.lt_succ_self _)
    rw [readChunks]
    simp only
    generalize drain action ((reader.pending ++ value).length + 1) ⟨reader.pending ++ value,
      reader.pendingBytes + (utf8 value).length, reader.currentRevision⟩ = result at hdrained ⊢
    obtain ⟨delivered, next, ending⟩ := result
    cases ending with
    | some ending => exact (hdrained fs₂ left).symm
    | none =>
      have hleft := hfirst.find_left
      have huniform' := hdrained.uniform fs₂ left huniform
      have houtcome := hdrained.outcome fs₂ left
      simp only at houtcome ⊢
      rw [houtcome]
      split
      · next hlong =>
        rw [hdrained.bytes] at hlong
        rw [outcome_of_long hleft hlong hmore huniform', List.append_nil]
      · next hshort' =>
        obtain ⟨pending, pendingBytes, revision⟩ := next
        obtain rfl : pending = left₁ := hdrained.pending
        have hbytes' : pendingBytes = (utf8 pending).length := hdrained.bytes
        rw [ih ⟨pending, pendingBytes, revision⟩ hleft hbytes' (hbytes' ▸ hshort') hmore huniform']

/-- A stream that comes in one chunk. -/
theorem readChunks_single (h : sseCutter.Framed text frames left) (revision : ℕ) :
    readChunks action ⟨[], 0, revision⟩ [text] = outcome action left frames revision := by
  have hdrained := drain_framed action h ⟨text, 0 + (utf8 text).length, revision⟩ rfl
    (Nat.zero_add _) (Nat.lt_succ_self _)
  rw [readChunks]
  simp only [List.nil_append]
  generalize drain action (text.length + 1) ⟨text, 0 + (utf8 text).length, revision⟩ = result
    at hdrained ⊢
  obtain ⟨delivered, next, ending⟩ := result
  cases ending with
  | some ending =>
    have houtcome := hdrained [] left
    rw [List.append_nil] at houtcome
    exact houtcome.symm
  | none =>
    have houtcome := hdrained.outcome [] left
    rw [List.append_nil, outcome] at houtcome
    simp only [List.append_nil] at houtcome ⊢
    rw [houtcome, hdrained.bytes]
    split
    · rfl
    · simp [readChunks]

/-- A chunk that is one frame within the limit. -/
theorem readChunks_frame {index length : ℕ} (h : findSseBoundary text = some (index, length))
    (hshort : ¬ (utf8 (text.take index)).length > MAX_PLAYER_EVENT_FRAME_BYTES) (revision : ℕ)
    (chunks : List (List Char)) :
    readChunks action ⟨[], 0, revision⟩ (text.take (index + length) :: chunks)
      = match action (text.take index) revision with
        | .resync => ([], .resync)
        | .ignore => readChunks action ⟨[], 0, revision⟩ chunks
        | .snapshot newer snapshot =>
          (snapshot :: (readChunks action ⟨[], 0, newer⟩ chunks).1,
            (readChunks action ⟨[], 0, newer⟩ chunks).2) := by
  have hbounds := sseCutter.bounds h
  have hfind : findSseBoundary (text.take (index + length)) = some (index, length) :=
    (sseCutter.find_take h (index + length)).trans (if_pos le_rfl)
  have htake : (text.take (index + length)).take index = text.take index := by
    rw [List.take_take, Nat.min_eq_left (Nat.le_add_right _ _)]
  have hdrop : (text.take (index + length)).drop (index + length) = [] :=
    List.drop_eq_nil_of_le (List.length_take_le _ _)
  have hbytes := utf8_take_delimiter h (Nat.le_refl length)
  obtain ⟨steps, hsteps⟩ : ∃ steps, (text.take (index + length)).length = steps + 1 :=
    ⟨(text.take (index + length)).length - 1, by rw [List.length_take]; omega⟩
  rw [readChunks]
  simp only [List.nil_append, hsteps, drain, hfind, htake, if_neg hshort, hdrop, Nat.zero_add,
    hbytes, Nat.sub_self, findSseBoundary_nil]
  cases haction : action (text.take index) revision with
  | resync => rfl
  | ignore => simp
  | snapshot newer snapshot => simp

/-- A delimiter that is not complete counts towards the limit. -/
theorem readChunks_tight {index length : ℕ} (h : findSseBoundary text = some (index, length))
    (htight : (utf8 (text.take index)).length + (length - 1) > MAX_PLAYER_EVENT_FRAME_BYTES)
    (revision : ℕ) (chunks : List (List Char)) :
    readChunks action ⟨[], 0, revision⟩ (text.take (index + (length - 1)) :: chunks)
      = ([], .frameLimit) := by
  have hbounds := sseCutter.bounds h
  have hfind : findSseBoundary (text.take (index + (length - 1))) = none :=
    (sseCutter.find_take h _).trans (if_neg (by omega))
  have hbytes := utf8_take_delimiter h (Nat.sub_le length 1)
  rw [readChunks]
  simp only [List.nil_append, drain, hfind, hbytes, Nat.zero_add]
  rw [if_pos htight]

/-- A stream that does not depend on its chunks is uniform. -/
theorem uniform_of_chunks (h : sseCutter.Framed text frames left) (revision : ℕ)
    (hsame : ∀ chunks : List (List Char), chunks.flatten = text →
      readChunks action ⟨[], 0, revision⟩ chunks = outcome action left frames revision) :
    Uniform action left frames revision := by
  induction h generalizing revision with
  | rest => trivial
  | @frame text index length frames left hsome _ ih =>
    unfold Uniform
    by_cases hlong : (utf8 (text.take index)).length > MAX_PLAYER_EVENT_FRAME_BYTES
    · exact .inl hlong
    · refine .inr ⟨?_, ?_⟩
      · intro htight
        have hcut := hsame [text.take (index + (length - 1)), text.drop (index + (length - 1))]
          (by simp)
        rw [readChunks_tight hsome htight] at hcut
        exact (outcome_eq_frameLimit_iff revision).mp hcut.symm
      · have hnext : ∀ chunks : List (List Char), chunks.flatten = text.drop (index + length) →
            readChunks action ⟨[], 0, revision⟩ (text.take (index + length) :: chunks)
              = outcome action left ((text.take index, length) :: frames) revision := by
          intro chunks hchunks
          exact hsame _ (by rw [List.flatten_cons, hchunks, List.take_append_drop])
        cases haction : action (text.take index) revision with
        | resync => trivial
        | ignore =>
          refine ih revision ?_
          intro chunks hchunks
          have hread := hnext chunks hchunks
          rw [readChunks_frame hsome hlong, outcome, if_neg hlong, haction] at hread
          exact hread
        | snapshot newer snapshot =>
          refine ih newer ?_
          intro chunks hchunks
          have hread := hnext chunks hchunks
          rw [readChunks_frame hsome hlong, outcome, if_neg hlong, haction] at hread
          obtain ⟨hdelivered, hending⟩ := Prod.mk.inj hread
          exact Prod.ext (List.cons.inj hdelivered).2 hending

theorem complete_spec (text : List Char) (bytes : ℕ) :
    text = (complete text bytes).1 ++ (complete text bytes).2.1
      ∧ (utf8 (complete text bytes).1).length + (complete text bytes).2.2 = bytes
      ∧ ∀ c ∈ (complete text bytes).2.1.head?, (complete text bytes).2.2 < c.utf8Size := by
  induction text generalizing bytes with
  | nil => simp [complete]
  | cons c text ih =>
    unfold complete
    split
    · obtain ⟨hsplit, hbytes, hnext⟩ := ih (bytes - c.utf8Size)
      refine ⟨congrArg (c :: ·) hsplit, ?_, hnext⟩
      simp only [length_utf8_cons]
      omega
    · next hmore => simp; omega

/-- All bytes of a text make the text. -/
theorem flatten_decodedChunks (text : List Char) (carried : ℕ) (lengths : List ℕ)
    (hcarried : ∀ c ∈ text.head?, carried < c.utf8Size)
    (h : carried + lengths.sum = (utf8 text).length) :
    (decodedChunks text carried lengths).flatten = text := by
  induction lengths generalizing text carried with
  | nil =>
    cases text with
    | nil => rfl
    | cons c text =>
      have hlt := hcarried c rfl
      rw [length_utf8_cons, List.sum_nil] at h
      omega
  | cons length lengths ih =>
    obtain ⟨hsplit, hbytes, hnext⟩ := complete_spec text (carried + length)
    have htotal := congrArg (fun cs => (utf8 cs).length) hsplit
    simp only [utf8_append, List.length_append] at htotal
    rw [List.sum_cons] at h
    have hrest := ih (complete text (carried + length)).2.1 (complete text (carried + length)).2.2
      hnext (by omega)
    rw [decodedChunks]
    simp only [List.flatten_cons, hrest]
    exact hsplit.symm

theorem complete_append (front rest : List Char) :
    complete (front ++ rest) (utf8 front).length = (front, rest, 0) := by
  induction front with
  | nil =>
    cases rest with
    | nil => rfl
    | cons c rest =>
      have hpos := c.utf8Size_pos
      rw [List.nil_append, complete, if_neg (by rw [utf8_nil, List.length_nil]; omega)]
      rfl
  | cons c front ih =>
    rw [List.cons_append, complete, length_utf8_cons, if_pos (Nat.le_add_right _ _),
      Nat.add_sub_cancel_left, ih]

/-- Chunks of characters are decoded from chunks of their bytes. -/
theorem decodedChunks_utf8 (chunks : List (List Char)) :
    decodedChunks chunks.flatten 0 (chunks.map fun chunk => (utf8 chunk).length) = chunks := by
  induction chunks with
  | nil => rfl
  | cons chunk chunks ih =>
    rw [List.flatten_cons, List.map_cons, decodedChunks, Nat.zero_add, complete_append]
    simp only [ih]

theorem sum_utf8 (chunks : List (List Char)) :
    (chunks.map fun chunk => (utf8 chunk).length).sum = (utf8 chunks.flatten).length := by
  induction chunks with
  | nil => rfl
  | cons chunk chunks ih =>
    rw [List.map_cons, List.sum_cons, ih, List.flatten_cons, utf8_append, List.length_append]

/-- What all splits of the bytes have in common, all splits of the characters have. -/
theorem readChunks_of_lengths {library : UrlLibrary} {jsonParse : String → Option JsValue}
    {guildId : String} {afterRevision : ℕ} (h : sseCutter.Framed text frames left)
    (hsame : ∀ lengths lengths' : List ℕ, lengths.sum = (utf8 text).length →
      lengths'.sum = (utf8 text).length →
      streamPlayerEvents library jsonParse guildId afterRevision (decodedChunks text 0 lengths)
        = streamPlayerEvents library jsonParse guildId afterRevision
          (decodedChunks text 0 lengths')) (chunks : List (List Char))
    (hchunks : chunks.flatten = text) :
    readChunks (frameAction library jsonParse guildId) ⟨[], 0, afterRevision⟩ chunks
      = outcome (frameAction library jsonParse guildId) left frames afterRevision := by
  subst hchunks
  have hboth := hsame (chunks.map fun chunk => (utf8 chunk).length)
    ([chunks.flatten].map fun chunk => (utf8 chunk).length) (sum_utf8 chunks)
    (by rw [sum_utf8]; simp)
  have hsingle := decodedChunks_utf8 [chunks.flatten]
  rw [List.flatten_singleton] at hsingle
  rw [decodedChunks_utf8, hsingle] at hboth
  exact hboth.trans (readChunks_single h afterRevision)

/-- The chunks matter unless the stream is uniform. -/
theorem stream_chunking (library : UrlLibrary) (jsonParse : String → Option JsValue)
    (guildId : String) (afterRevision : ℕ) (text : List Char) :
    (∀ lengths lengths' : List ℕ, lengths.sum = (utf8 text).length →
        lengths'.sum = (utf8 text).length →
        streamPlayerEvents library jsonParse guildId afterRevision (decodedChunks text 0 lengths)
          = streamPlayerEvents library jsonParse guildId afterRevision
            (decodedChunks text 0 lengths'))
      ↔ Uniform (frameAction library jsonParse guildId) (sseCutter.frames text).2
        (sseCutter.frames text).1 afterRevision := by
  have hframed : sseCutter.Framed text _ _ := Cutter.framed_frames text
  constructor
  · intro hsame
    exact uniform_of_chunks hframed afterRevision (readChunks_of_lengths hframed hsame)
  · intro huniform lengths lengths' hlengths hlengths'
    have hread : ∀ lengths : List ℕ, lengths.sum = (utf8 text).length →
        streamPlayerEvents library jsonParse guildId afterRevision (decodedChunks text 0 lengths)
          = outcome (frameAction library jsonParse guildId) (sseCutter.frames text).2
            (sseCutter.frames text).1 afterRevision := by
      intro lengths hlengths
      have hflatten := flatten_decodedChunks text 0 lengths (fun c _ => c.utf8Size_pos)
        (by rw [Nat.zero_add, hlengths])
      refine readChunks_uniform _ ⟨[], 0, afterRevision⟩ rfl rfl (by simp) ?_ huniform
      rw [List.nil_append, hflatten]
      exact hframed
    rw [hread lengths hlengths, hread lengths' hlengths']

theorem indexOf_plain {needle front behind : List Char} {c : Char} (hc : needle.head? = some c)
    (h : c ∉ front) : indexOf needle (front ++ behind) = (indexOf needle behind).map
      (front.length + ·) := by
  obtain ⟨rest, rfl⟩ : ∃ rest, needle = c :: rest := by
    cases needle with
    | nil => contradiction
    | cons first rest => exact ⟨rest, by rw [Option.some.inj hc]⟩
  induction front with
  | nil => simp
  | cons d front ih =>
    have hne : c ≠ d := fun heq => h (List.mem_cons.mpr (.inl heq))
    have hbegins : ¬ (c :: rest).isPrefixOf (d :: (front ++ behind)) = true := by simp [hne]
    rw [List.cons_append, indexOf, if_neg hbegins, ih fun hmem => h (List.mem_cons_of_mem _ hmem),
      Option.map_map]
    congr 1
    funext offset
    simp only [Function.comp_apply, List.length_cons]
    omega

/-- A line and an empty one are one frame. -/
theorem framed_line {line : List Char} (hlineFeed : '\n' ∉ line) (hreturn : '\r' ∉ line) :
    sseCutter.Framed (line ++ ['\n', '\n']) [(line, 2)] [] := by
  have hfind : findSseBoundary (line ++ ['\n', '\n']) = some (line.length, 2) := by
    rw [findSseBoundary, indexOf_plain rfl hlineFeed, indexOf_plain rfl hreturn]
    rfl
  have htake : (line ++ ['\n', '\n']).take line.length = line := List.take_left
  have hdrop : (line ++ ['\n', '\n']).drop (line.length + 2) = [] :=
    List.drop_eq_nil_of_le (Nat.le_of_eq List.length_append)
  have hrest : sseCutter.Framed ((line ++ ['\n', '\n']).drop (line.length + 2)) [] [] := by
    rw [hdrop]
    exact .rest rfl
  have hframed : sseCutter.Framed (line ++ ['\n', '\n']) _ [] := .frame hfind hrest
  rwa [htake] at hframed

/-- A comment that is a frame of the limit. -/
def greatestComment : List Char := ':' :: List.replicate (MAX_PLAYER_EVENT_FRAME_BYTES - 1) 'a'

theorem framed_greatestComment :
    sseCutter.Framed (greatestComment ++ ['\n', '\n']) [(greatestComment, 2)] [] := by
  refine framed_line ?_ ?_
  · simp [greatestComment, List.mem_replicate]
  · simp [greatestComment, List.mem_replicate]

theorem length_greatestComment :
    (utf8 greatestComment).length = MAX_PLAYER_EVENT_FRAME_BYTES := by
  rw [length_utf8_of_ascii]
  · rw [greatestComment, List.length_cons, List.length_replicate]
    unfold MAX_PLAYER_EVENT_FRAME_BYTES
    omega
  · intro c hc
    rcases List.mem_cons.mp hc with rfl | hmem
    · decide
    · rw [(List.mem_replicate.mp hmem).2]
      decide

/-- The comment with its delimiter is read to its end in one chunk, and refused in two. -/
theorem comment_split :
    ¬ ∀ lengths lengths' : List ℕ,
      lengths.sum = (utf8 (greatestComment ++ ['\n', '\n'])).length →
      lengths'.sum = (utf8 (greatestComment ++ ['\n', '\n'])).length →
        streamPlayerEvents ⟨fun _ => none, fun _ => []⟩ (fun _ => none) "1" 0
            (decodedChunks (greatestComment ++ ['\n', '\n']) 0 lengths)
          = streamPlayerEvents ⟨fun _ => none, fun _ => []⟩ (fun _ => none) "1" 0
            (decodedChunks (greatestComment ++ ['\n', '\n']) 0 lengths') := by
  intro hsame
  have huniform := uniform_of_chunks framed_greatestComment 0
    (readChunks_of_lengths framed_greatestComment hsame)
  unfold Uniform at huniform
  rw [length_greatestComment] at huniform
  rcases huniform with hlong | ⟨htight, -⟩
  · exact absurd hlong (lt_irrefl _)
  · have hsilent := htight (by decide)
    unfold SilentLimit at hsilent
    rw [length_greatestComment] at hsilent
    rcases hsilent with hlong | ⟨-, hrest⟩
    · exact absurd hlong (lt_irrefl _)
    · exact absurd hrest (Nat.not_lt_zero _)

end PepeAudio.EventStream
