import PepeAudio.Media.LeaseRegistry
import Mathlib.Data.List.Perm.Basic

/-!
# What leases protect

The registry counts the tokens of every object, and never has tokens and a
permit for one object. A lease protects the file of its object once it is taken;
that the file was there is only known from before the mutex was taken.
-/
namespace PepeAudio

/-- What the registry has for an object with so many tokens and permits. -/
inductive Tally : Option RegistryState → ℕ → ℕ → Prop
  | free : Tally none 0 0
  | leased (count : ℕ) : Tally (some (.leased (count + 1))) (count + 1) 0
  | deleting : Tally (some .deleting) 0 1

namespace ManagedMedia

/-- The objects on which a token lives, once for each of them. -/
def leasedPaths (media : ManagedMedia) : List MediaPath := media.tokens.map LeaseToken.path

/-- The registry agrees with the tokens and the permits. -/
def Tallied (media : ManagedMedia) : Prop :=
  ∀ path, Tally (media.entries path) (media.leasedPaths.count path) (media.permits.count path)

/-- What leases are for. -/
structure LeasesProtect (media : ManagedMedia) : Prop where
  files : ∀ token ∈ media.tokens, (media.files token.path).isSome = true
  counts : ∀ path, (match media.entries path with | some (.leased count) => count | _ => 0) =
    media.leasedPaths.count path
  exclusive : ∀ token ∈ media.tokens, token.path ∉ media.permits

/-- A call takes its lease on an object that was removed after the call had looked at it, and
whose deletion is over. -/
def disturbed (media : ManagedMedia) : ManagedMediaEvent → Bool
  | .lock index =>
    match media.acquiring[index]? with
    | some (.inspected canonical true) => (media.entries canonical).isNone
    | _ => false
  | _ => false

/-- What holds in every run: an object that was overtaken is gone. -/
structure Consistent (media : ManagedMedia) : Prop where
  tallied : media.Tallied
  overtaken : ∀ canonical, .inspected canonical true ∈ media.acquiring →
    media.files canonical = none

/-- What holds as long as no call is disturbed: the files of tokens are there, and so are those
that a call has seen and nobody has removed since. -/
structure Guarded (media : ManagedMedia) : Prop where
  tokens : ∀ token ∈ media.tokens, (media.files token.path).isSome = true
  inspected : ∀ canonical, .inspected canonical false ∈ media.acquiring →
    (media.files canonical).isSome = true

end ManagedMedia

theorem count_eraseIdx {α : Type*} [DecidableEq α] {l : List α} {index : ℕ} {a : α}
    (h : l[index]? = some a) (b : α) :
    l.count b = (l.eraseIdx index).count b + if a = b then 1 else 0 := by
  obtain ⟨hlt, rfl⟩ := List.getElem?_eq_some_iff.mp h
  have hperm := List.getElem_cons_eraseIdx_perm hlt
  rw [← hperm.count_eq, List.count_cons]
  simp

theorem map_set_same {α β : Type*} {f : α → β} {l : List α} {index : ℕ} {a a' : α}
    (h : l[index]? = some a) (hf : f a' = f a) : (l.set index a').map f = l.map f := by
  apply List.ext_getElem?
  intro i
  by_cases hi : index = i
  · subst hi
    obtain ⟨hlt, hget⟩ := List.getElem?_eq_some_iff.mp h
    simp [hlt, hf, hget]
  · simp [hi]

theorem Tally.of_none {tokens permits : ℕ} (h : Tally none tokens permits) :
    tokens = 0 ∧ permits = 0 := by
  cases h with
  | free => exact ⟨rfl, rfl⟩

theorem Tally.of_leased {count tokens permits : ℕ}
    (h : Tally (some (.leased count)) tokens permits) :
    0 < count ∧ tokens = count ∧ permits = 0 := by
  cases h with
  | leased count => exact ⟨count.succ_pos, rfl, rfl⟩

theorem Tally.of_deleting {tokens permits : ℕ} (h : Tally (some .deleting) tokens permits) :
    tokens = 0 := by
  cases h with
  | deleting => rfl

theorem Tally.of_token {state : Option RegistryState} {tokens permits : ℕ}
    (h : Tally state tokens permits) (hpos : 0 < tokens) :
    ∃ count, state = some (.leased (count + 1)) ∧ tokens = count + 1 ∧ permits = 0 := by
  cases h with
  | free => omega
  | leased count => exact ⟨count, rfl, rfl, rfl⟩
  | deleting => omega

theorem Tally.of_permit {state : Option RegistryState} {tokens permits : ℕ}
    (h : Tally state tokens permits) (hpos : 0 < permits) :
    state = some .deleting ∧ tokens = 0 ∧ permits = 1 := by
  cases h with
  | free => omega
  | leased count => omega
  | deleting => exact ⟨rfl, rfl, rfl⟩

namespace ManagedMedia

variable {root : MediaRoot} {media : ManagedMedia} {path : MediaPath}

/-- The part of `acquire` behind the mutex refuses, or counts one more token. -/
theorem lease_cases (media : ManagedMedia) (canonical : MediaPath) :
    (∃ error, media.lease canonical = (.error error, media) ∧ media.entries canonical ≠ none) ∨
    ∃ count, (media.entries canonical = none ∧ count = 0 ∨
        media.entries canonical = some (.leased count)) ∧
      media.lease canonical = (.ok canonical, { media with
        entries := Function.update media.entries canonical (some (.leased (count + 1)))
        tokens := media.tokens ++ [⟨canonical, 0⟩] }) := by
  unfold lease
  cases hentry : media.entries canonical with
  | none => exact .inr ⟨0, .inl ⟨rfl, rfl⟩, rfl⟩
  | some state =>
    cases state with
    | deleting => exact .inl ⟨_, rfl, by simp⟩
    | leased count =>
      dsimp only
      split
      · exact .inr ⟨count, .inr rfl, rfl⟩
      · exact .inl ⟨_, rfl, by simp⟩

theorem Tallied.lease (h : media.Tallied) (canonical : MediaPath) :
    (media.lease canonical).2.Tallied := by
  rcases lease_cases media canonical with ⟨error, hlease, -⟩ | ⟨count, hentry, hlease⟩
  · rw [hlease]
    exact h
  · rw [hlease]
    have hself := h canonical
    have htally : media.leasedPaths.count canonical = count ∧
        media.permits.count canonical = 0 := by
      rcases hentry with ⟨hnone, rfl⟩ | hleased
      · rw [hnone] at hself
        exact hself.of_none
      · rw [hleased] at hself
        exact hself.of_leased.2
    intro other
    have hother := h other
    dsimp only [leasedPaths] at htally hother ⊢
    rw [List.map_append, List.count_append]
    by_cases hsame : other = canonical
    · subst hsame
      rw [Function.update_self, htally.1, htally.2]
      simpa using Tally.leased count
    · rw [Function.update_of_ne hsame]
      simpa [Ne.symm hsame] using hother

theorem dropToken_of_leased {entries : MediaPath → Option RegistryState} {count : ℕ}
    (h : entries path = some (.leased (count + 1))) : dropToken path entries =
      Function.update entries path (if count = 0 then none else some (.leased count)) := by
  unfold dropToken
  rw [h]
  cases count with
  | zero => rfl
  | succ count => rfl

theorem Tallied.dropToken (h : media.Tallied) {index : ℕ} {token : LeaseToken}
    (htoken : media.tokens[index]? = some token) :
    Tallied { media with
      entries := dropToken token.path media.entries
      tokens := media.tokens.eraseIdx index } := by
  have hpath : media.leasedPaths[index]? = some token.path := by
    simp [leasedPaths, htoken]
  have herase : (media.tokens.eraseIdx index).map LeaseToken.path =
      media.leasedPaths.eraseIdx index := (List.eraseIdx_map ..).symm
  have hlive : 0 < media.leasedPaths.count token.path :=
    List.count_pos_iff.mpr (List.mem_of_getElem? hpath)
  obtain ⟨count, hentry, htokens, hpermits⟩ := (h token.path).of_token hlive
  intro other
  have hcount := count_eraseIdx hpath other
  rw [dropToken_of_leased hentry]
  dsimp only [leasedPaths]
  rw [herase]
  by_cases hsame : other = token.path
  · subst hsame
    rw [if_pos rfl] at hcount
    have hleft : (media.leasedPaths.eraseIdx index).count token.path = count := by omega
    rw [Function.update_self, hleft, hpermits]
    cases count with
    | zero => exact .free
    | succ count => exact .leased count
  · rw [if_neg (Ne.symm hsame)] at hcount
    have hleft : (media.leasedPaths.eraseIdx index).count other =
        media.leasedPaths.count other := by omega
    rw [Function.update_of_ne hsame, hleft]
    exact h other

theorem Tallied.beginDeletion (h : media.Tallied) (hfree : media.entries path = none) :
    Tallied { media with
      entries := Function.update media.entries path (some .deleting)
      permits := media.permits ++ [path] } := by
  intro other
  have hother := h other
  have hself := h path
  rw [hfree] at hself
  obtain ⟨htokens, hpermits⟩ := hself.of_none
  dsimp only [leasedPaths] at htokens hother ⊢
  rw [List.count_append]
  by_cases hsame : other = path
  · subst hsame
    rw [Function.update_self, htokens, hpermits]
    simpa using Tally.deleting
  · rw [Function.update_of_ne hsame]
    simpa [Ne.symm hsame] using hother

theorem Tallied.dropPermit (h : media.Tallied) {index : ℕ}
    (hpermit : media.permits[index]? = some path) :
    Tallied { media with
      entries := dropPermit path media.entries
      permits := media.permits.eraseIdx index } := by
  have hheld : 0 < media.permits.count path :=
    List.count_pos_iff.mpr (List.mem_of_getElem? hpermit)
  obtain ⟨hdeleting, htokens, hpermits⟩ := (h path).of_permit hheld
  intro other
  have hcount := count_eraseIdx hpermit other
  unfold ManagedMedia.dropPermit
  rw [if_pos hdeleting]
  dsimp only [leasedPaths] at htokens ⊢
  by_cases hsame : other = path
  · subst hsame
    rw [if_pos rfl] at hcount
    have hleft : (media.permits.eraseIdx index).count other = 0 := by omega
    rw [Function.update_self, htokens, hleft]
    exact .free
  · rw [if_neg (Ne.symm hsame)] at hcount
    have hleft : (media.permits.eraseIdx index).count other = media.permits.count other := by omega
    rw [Function.update_of_ne hsame, hleft]
    exact h other

theorem Tallied.exclusive (h : media.Tallied) {token : LeaseToken} (htoken : token ∈ media.tokens) :
    token.path ∉ media.permits := by
  intro hpermit
  have hlive : 0 < media.leasedPaths.count token.path :=
    List.count_pos_iff.mpr (List.mem_map_of_mem htoken)
  have hheld : 0 < media.permits.count token.path := List.count_pos_iff.mpr hpermit
  obtain ⟨count, -, -, hnone⟩ := (h token.path).of_token hlive
  omega

theorem Tallied.counts (h : media.Tallied) (path : MediaPath) :
    (match media.entries path with | some (.leased count) => count | _ => 0) =
      media.leasedPaths.count path := by
  have htally := h path
  cases hentry : media.entries path with
  | none =>
    rw [hentry] at htally
    exact htally.of_none.1.symm
  | some state =>
    rw [hentry] at htally
    cases state with
    | leased count => exact htally.of_leased.2.1.symm
    | deleting => exact htally.of_deleting.symm

theorem overtake_eq_overtaken {removed canonical : MediaPath} {acquisition : Acquisition}
    (h : acquisition.overtake removed = .inspected canonical true) :
    acquisition = .inspected canonical true ∨ canonical = removed := by
  cases acquisition with
  | measured path => simp [Acquisition.overtake] at h
  | inspected inspected overtaken =>
    simp only [Acquisition.overtake, Acquisition.inspected.injEq, Bool.or_eq_true,
      decide_eq_true_eq] at h
    obtain ⟨rfl, hovertaken | hremoved⟩ := h
    · left
      rw [hovertaken]
    · exact .inr hremoved

theorem overtake_eq_inspected {removed canonical : MediaPath} {acquisition : Acquisition}
    (h : acquisition.overtake removed = .inspected canonical false) :
    acquisition = .inspected canonical false ∧ canonical ≠ removed := by
  cases acquisition with
  | measured path => simp [Acquisition.overtake] at h
  | inspected inspected overtaken =>
    simp only [Acquisition.overtake, Acquisition.inspected.injEq, Bool.or_eq_false_iff,
      decide_eq_false_iff_not] at h
    obtain ⟨rfl, hovertaken, hother⟩ := h
    exact ⟨by rw [hovertaken], hother⟩

/-- A step that removes no file and inspects none. -/
theorem Consistent.of_subset (h : media.Consistent) {media' : ManagedMedia}
    (htallied : media'.Tallied) (hfiles : media'.files = media.files)
    (hacquiring : media'.acquiring ⊆ media.acquiring) : media'.Consistent := by
  refine ⟨htallied, ?_⟩
  intro canonical hovertaken
  rw [hfiles]
  exact h.overtaken canonical (hacquiring hovertaken)

theorem eraseIdx_subset {α : Type*} (l : List α) (index : ℕ) : l.eraseIdx index ⊆ l :=
  fun _ => List.mem_of_mem_eraseIdx

theorem leasedPaths_clones {index : ℕ} {token : LeaseToken} {clones : ℕ}
    (htoken : media.tokens[index]? = some token) :
    leasedPaths { media with tokens := media.tokens.set index { token with clones := clones } } =
      media.leasedPaths :=
  map_set_same htoken rfl

theorem Tallied.clones (h : media.Tallied) {index : ℕ} {token : LeaseToken}
    (htoken : media.tokens[index]? = some token) (clones : ℕ) :
    Tallied { media with tokens := media.tokens.set index { token with clones := clones } } := by
  intro other
  rw [leasedPaths_clones htoken]
  exact h other

theorem Consistent.step (h : media.Consistent) (event : ManagedMediaEvent) :
    (media.step root event).2.Consistent := by
  cases event with
  | measure path =>
    dsimp only [ManagedMedia.step]
    split
    · exact h
    · refine ⟨h.tallied, ?_⟩
      intro canonical hovertaken
      rcases List.mem_append.mp hovertaken with hbefore | hnew
      · exact h.overtaken canonical hbefore
      · simp at hnew
    · exact h
  | canonicalize index =>
    dsimp only [ManagedMedia.step]
    split
    · split
      · exact h.of_subset h.tallied rfl (eraseIdx_subset _ _)
      · split
        · exact h.of_subset h.tallied rfl (eraseIdx_subset _ _)
        · refine ⟨h.tallied, ?_⟩
          intro canonical hovertaken
          rcases List.mem_or_eq_of_mem_set hovertaken with hbefore | hnew
          · exact h.overtaken canonical hbefore
          · simp at hnew
    · exact h
  | lock index =>
    dsimp only [ManagedMedia.step]
    split
    · rename_i canonical overtaken hacquiring
      have hleft : Consistent { media with acquiring := media.acquiring.eraseIdx index } :=
        h.of_subset h.tallied rfl (eraseIdx_subset _ _)
      have htallied := hleft.tallied.lease canonical
      rcases lease_cases { media with acquiring := media.acquiring.eraseIdx index } canonical with
        ⟨error, hlease, -⟩ | ⟨count, -, hlease⟩
      · rw [hlease]
        exact hleft
      · rw [hlease] at htallied ⊢
        exact hleft.of_subset htallied rfl (List.Subset.refl _)
    · exact h
  | cancel index => exact h.of_subset h.tallied rfl (eraseIdx_subset _ _)
  | clone index =>
    dsimp only [ManagedMedia.step]
    split
    · exact h
    · rename_i token htoken
      exact h.of_subset (h.tallied.clones htoken _) rfl (List.Subset.refl _)
  | drop index =>
    dsimp only [ManagedMedia.step]
    split
    · exact h
    · rename_i token htoken
      split
      · exact h.of_subset (h.tallied.dropToken htoken) rfl (List.Subset.refl _)
      · exact h.of_subset (h.tallied.clones htoken _) rfl (List.Subset.refl _)
  | beginDeletion path =>
    dsimp only [ManagedMedia.step]
    split
    · exact h
    · rename_i hfree
      have hnone : media.entries path = none := by simpa using hfree
      exact h.of_subset (h.tallied.beginDeletion hnone) rfl (List.Subset.refl _)
  | remove index =>
    dsimp only [ManagedMedia.step]
    split
    · exact h
    · rename_i path hpermit
      split
      · exact h
      · exact h
      · refine ⟨h.tallied, ?_⟩
        intro canonical hovertaken
        obtain ⟨acquisition, hmem, hacquisition⟩ := List.mem_map.mp hovertaken
        by_cases hsame : canonical = path
        · subst hsame
          exact Function.update_self ..
        · dsimp only
          rw [Function.update_of_ne hsame]
          rcases overtake_eq_overtaken hacquisition with rfl | hremoved
          · exact h.overtaken canonical hmem
          · contradiction
  | dropPermit index =>
    dsimp only [ManagedMedia.step]
    split
    · exact h
    · rename_i path hpermit
      exact h.of_subset (h.tallied.dropPermit hpermit) rfl (List.Subset.refl _)

theorem Guarded.of_subset (h : media.Guarded) {media' : ManagedMedia}
    (hfiles : media'.files = media.files) (hacquiring : media'.acquiring ⊆ media.acquiring)
    (htokens : media'.leasedPaths ⊆ media.leasedPaths) : media'.Guarded := by
  constructor
  · intro token htoken
    obtain ⟨before, hbefore, hpath⟩ := List.mem_map.mp (htokens (List.mem_map_of_mem htoken))
    rw [hfiles, ← hpath]
    exact h.tokens before hbefore
  · intro canonical hinspected
    rw [hfiles]
    exact h.inspected canonical (hacquiring hinspected)

/-- The lock finds the file that the call has seen, unless the call was disturbed. -/
theorem Guarded.lock (h : media.Guarded) (htallied : media.Tallied) {index : ℕ}
    {canonical : MediaPath} {overtaken : Bool}
    (hacquiring : media.acquiring[index]? = some (.inspected canonical overtaken))
    (hundisturbed : overtaken = true → media.entries canonical ≠ none) :
    ({ media with acquiring := media.acquiring.eraseIdx index }.lease canonical).2.Guarded := by
  have hleft : Guarded { media with acquiring := media.acquiring.eraseIdx index } :=
    h.of_subset rfl (eraseIdx_subset _ _) (List.Subset.refl _)
  rcases lease_cases { media with acquiring := media.acquiring.eraseIdx index } canonical with
    ⟨error, hlease, -⟩ | ⟨count, hentry, hlease⟩
  · rw [hlease]
    exact hleft
  · rw [hlease]
    refine ⟨?_, hleft.inspected⟩
    intro token htoken
    rcases List.mem_append.mp htoken with hbefore | hnew
    · exact hleft.tokens token hbefore
    · obtain rfl := List.mem_singleton.mp hnew
      dsimp only at hentry ⊢
      -- the file is known from the inspection, or from the tokens that are there already
      rcases hentry with ⟨hnone, -⟩ | hleased
      · cases overtaken with
        | true => exact absurd hnone (hundisturbed rfl)
        | false => exact h.inspected canonical (List.mem_of_getElem? hacquiring)
      · have htally := htallied canonical
        rw [hleased] at htally
        obtain ⟨hpos, hcount, -⟩ := htally.of_leased
        have hlive : canonical ∈ media.leasedPaths := by
          refine List.count_pos_iff.mp ?_
          omega
        obtain ⟨token, hmem, rfl⟩ := List.mem_map.mp hlive
        exact h.tokens token hmem

/-- A permit removes no file of a token. -/
theorem Guarded.remove (h : media.Guarded) (htallied : media.Tallied)
    (hpermit : path ∈ media.permits) :
    Guarded { media with
      files := Function.update media.files path none
      acquiring := media.acquiring.map (Acquisition.overtake path) } := by
  constructor
  · intro token htoken
    have hother : token.path ≠ path := by
      rintro rfl
      exact htallied.exclusive htoken hpermit
    dsimp only
    rw [Function.update_of_ne hother]
    exact h.tokens token htoken
  · intro canonical hinspected
    obtain ⟨acquisition, hmem, hacquisition⟩ := List.mem_map.mp hinspected
    obtain ⟨rfl, hother⟩ := overtake_eq_inspected hacquisition
    dsimp only
    rw [Function.update_of_ne hother]
    exact h.inspected canonical hmem

theorem Guarded.step (h : media.Guarded) (htallied : media.Tallied) (event : ManagedMediaEvent)
    (hundisturbed : media.disturbed event = false) : (media.step root event).2.Guarded := by
  cases event with
  | measure path =>
    dsimp only [ManagedMedia.step]
    split
    · exact h
    · refine ⟨h.tokens, ?_⟩
      intro canonical hinspected
      rcases List.mem_append.mp hinspected with hbefore | hnew
      · exact h.inspected canonical hbefore
      · simp at hnew
    · exact h
  | canonicalize index =>
    dsimp only [ManagedMedia.step]
    split
    · split
      · exact h.of_subset rfl (eraseIdx_subset _ _) (List.Subset.refl _)
      · rename_i hthere
        split
        · exact h.of_subset rfl (eraseIdx_subset _ _) (List.Subset.refl _)
        · refine ⟨h.tokens, ?_⟩
          intro canonical hinspected
          rcases List.mem_or_eq_of_mem_set hinspected with hbefore | hnew
          · exact h.inspected canonical hbefore
          · obtain ⟨rfl, -⟩ := Acquisition.inspected.inj hnew
            exact Option.isSome_iff_ne_none.mpr hthere
    · exact h
  | lock index =>
    dsimp only [ManagedMedia.step]
    split
    · rename_i canonical overtaken hacquiring
      refine h.lock htallied hacquiring ?_
      rintro rfl hfree
      simp [disturbed, hacquiring, hfree] at hundisturbed
    · exact h
  | cancel index => exact h.of_subset rfl (eraseIdx_subset _ _) (List.Subset.refl _)
  | clone index =>
    dsimp only [ManagedMedia.step]
    split
    · exact h
    · rename_i token htoken
      refine h.of_subset rfl (List.Subset.refl _) ?_
      rw [leasedPaths_clones htoken]
      exact List.Subset.refl _
  | drop index =>
    dsimp only [ManagedMedia.step]
    split
    · exact h
    · rename_i token htoken
      split
      · exact h.of_subset rfl (List.Subset.refl _) (List.map_subset _ (eraseIdx_subset _ _))
      · refine h.of_subset rfl (List.Subset.refl _) ?_
        rw [leasedPaths_clones htoken]
        exact List.Subset.refl _
  | beginDeletion path =>
    dsimp only [ManagedMedia.step]
    split
    · exact h
    · exact h.of_subset rfl (List.Subset.refl _) (List.Subset.refl _)
  | remove index =>
    dsimp only [ManagedMedia.step]
    split
    · exact h
    · rename_i path hpermit
      split
      · exact h
      · exact h
      · exact h.remove htallied (List.mem_of_getElem? hpermit)
  | dropPermit index =>
    dsimp only [ManagedMedia.step]
    split
    · exact h
    · exact h.of_subset rfl (List.Subset.refl _) (List.Subset.refl _)

/-- A disturbed call gets a lease on a file that is gone. -/
theorem Consistent.undisturbed (h : media.Consistent) {event : ManagedMediaEvent}
    (hafter : (media.step root event).2.LeasesProtect) : media.disturbed event = false := by
  unfold disturbed
  split
  · rename_i index
    split
    · rename_i canonical hacquiring
      have hgone := h.overtaken canonical (List.mem_of_getElem? hacquiring)
      by_contra hdisturbed
      have hfree : media.entries canonical = none := by simpa using hdisturbed
      dsimp only [ManagedMedia.step] at hafter
      rw [hacquiring] at hafter
      dsimp only [ManagedMedia.lease] at hafter
      rw [hfree] at hafter
      have hthere := hafter.files ⟨canonical, 0⟩ (by simp)
      simp [hgone] at hthere
    · rfl
  · rfl

variable {files : MediaPath → Option FileKind}
  {taken : List (Taken ManagedMedia (ManagedMediaEvent × ManagedMediaReply))}

theorem Runs.consistent (run : Runs root files taken media) : media.Consistent := by
  refine run.invariant (I := Consistent) ⟨fun path => .free, by simp [start]⟩ ?_
  intro s l s' hconsistent hnext
  rw [hnext.eq.2]
  exact hconsistent.step l.1

/-- The leases of a run protect their objects throughout exactly if no call is disturbed. -/
theorem leases_protect_iff (run : Runs root files taken media) :
    Run.Throughout LeasesProtect taken media ↔
      ∀ t ∈ taken, t.before.disturbed t.label.1 = false := by
  refine run.throughout_iff (I := LeasesProtect) (J := Guarded)
    (C := fun t => t.before.disturbed t.label.1 = false) ⟨by simp [start], by simp [start]⟩ ?_ ?_ ?_
  · intro taken s run hguarded
    have htallied := (Runs.consistent run).tallied
    exact ⟨hguarded.tokens, htallied.counts, fun _ htoken => htallied.exclusive htoken⟩
  · intro taken s l s' run hguarded hnext hundisturbed
    rw [hnext.eq.2]
    exact hguarded.step (Runs.consistent run).tallied l.1 hundisturbed
  · intro taken s l s' run hnext hafter
    rw [hnext.eq.2] at hafter
    exact (Runs.consistent run).undisturbed hafter

/-- An object and a root without links. -/
def storedObject : MediaPath := ⟨"/media/objects", "0123456789abcdef0123456789abcdef"⟩

def plainRoot : MediaRoot := ⟨"/media/objects", id⟩

def oneFile (path : MediaPath) : Option FileKind :=
  if path = storedObject then some .regular else none

/-- A lease with a clone keeps its object until the clone is dropped. -/
def heldLease : List ManagedMediaEvent :=
  [.measure storedObject, .canonicalize 0, .lock 0, .clone 0, .beginDeletion storedObject, .drop 0,
    .beginDeletion storedObject, .drop 0, .beginDeletion storedObject, .remove 0, .dropPermit 0]

theorem leases_protect_iff_heldLease :
    ((record (step plainRoot) (start oneFile) heldLease).1.map fun t => t.label.2) =
      [.none, .none, .acquired (.ok storedObject), .none, .permitted false, .none,
        .permitted false, .none, .permitted true, .removed true, .none] ∧
    Run.Throughout LeasesProtect (record (step plainRoot) (start oneFile) heldLease).1
      (record (step plainRoot) (start oneFile) heldLease).2 :=
  ⟨by decide +kernel, (leases_protect_iff (run_record (step plainRoot) (start oneFile)
    heldLease)).mpr (by decide +kernel)⟩

/-- A whole deletion fits in between the inspection and the lock. -/
def overtakenLease : List ManagedMediaEvent :=
  [.measure storedObject, .canonicalize 0, .beginDeletion storedObject, .remove 0, .dropPermit 0,
    .lock 0]

theorem leases_protect_overtakenLease :
    (record (step plainRoot) (start oneFile) overtakenLease).1.getLast?.map
      (fun t => t.label.2) = some (.acquired (.ok storedObject)) ∧
    ¬ Run.Throughout LeasesProtect (record (step plainRoot) (start oneFile) overtakenLease).1
      (record (step plainRoot) (start oneFile) overtakenLease).2 := by
  refine ⟨by decide +kernel, ?_⟩
  intro hthroughout
  have hthere := hthroughout.2.files ⟨storedObject, 0⟩ (by decide +kernel)
  revert hthere
  decide +kernel

end ManagedMedia

end PepeAudio
