import Thought2Build.Sharing.PublicSharesCore

/-!
Which steps keep a link private once its owner has shut it, and its answers as fresh as the cache allows.
The cache is filled some time after the payload was built.
-/

namespace Thought2Build.Sharing

open Histories

namespace PublicShare

variable {digest : Nat → String} {ttl : Nat} {share : PublicShare}

def Fresh (ttl : Nat) (share : PublicShare) (slug : String) (payload : Payload) : Prop :=
  share.rows.buildPublicView slug = some payload.body ∨ share.clock - payload.built ≤ ttl

instance (slug : String) (payload : Payload) : Decidable (share.Fresh ttl slug payload) :=
  inferInstanceAs (Decidable (_ ∨ _))

def Prompt (ttl : Nat) (share : PublicShare) (reader : Reader) (failed : Bool) : Prop :=
  ∀ payload ∈ reader.payload, share.Fresh ttl reader.slug payload ∧
    (failed = false → 0 < ttl → share.clock = payload.built ∧ reader.slug ∉ share.shut)

def Evicts (share : PublicShare) (call : OwnerCall) (failed : Bool) : Prop :=
  ∀ slug ∈ call.shuts, ¬share.rows.IsOpen slug → failed = true ∨ call.evicts ≠ some slug →
    share.cached slug = none

def Careful (ttl : Nat) (share : PublicShare) : ShareEvent → Prop
  | .store id failed => ∀ reader ∈ share.reader id, share.Prompt ttl reader failed
  | .evict id failed => ∀ call ∈ share.call id, share.Evicts call failed
  | _ => True

instance (reader : Reader) (failed : Bool) : Decidable (share.Prompt ttl reader failed) := by
  unfold Prompt; infer_instance

instance (call : OwnerCall) (failed : Bool) : Decidable (share.Evicts call failed) := by
  unfold Evicts; infer_instance

instance (event : ShareEvent) : Decidable (share.Careful ttl event) := by
  unfold Careful
  split <;> infer_instance

end PublicShare

def Answer.Rightful (ttl : Nat) (answer : Answer) : Prop :=
  answer.shut = false ∧ (answer.isCurrent = true ∨ answer.since ≤ ttl)

instance (ttl : Nat) (answer : Answer) : Decidable (answer.Rightful ttl) := inferInstanceAs (Decidable (_ ∧ _))

namespace PublicShare

variable {digest : Nat → String} {ttl : Nat} {share : PublicShare} {slug : String} {id : Nat}

structure Sound (ttl : Nat) (share : PublicShare) : Prop where
  shut : ∀ slug ∈ share.shut, ¬share.rows.IsOpen slug
  empty : ∀ slug ∈ share.shut, share.cached slug = none
  readers : ∀ reader ∈ share.readers, reader.shut = true → reader.slug ∈ share.shut ∧ reader.payload = none
  lifetimes : ∀ entry ∈ share.cache, entry.expires ≤ entry.payload.built + ttl
  answers : ∀ answer ∈ share.answers, answer.Rightful ttl

theorem cached_eq_none : share.cached slug = none ↔
    ∀ entry ∈ share.cache, entry.slug = slug → entry.expires ≤ share.clock := by
  simp [cached]

theorem isOpen_of_buildPublicView {rows : Rows} {view : PublicView}
    (built : rows.buildPublicView slug = some view) : rows.IsOpen slug := by
  unfold Rows.buildPublicView at built
  split at built
  · rename_i visible
    exact visible.2.1
  · contradiction

theorem Sound.answer (sound : share.Sound ttl) (ifNoneMatch : Option String) {shut : Bool} {payload : Payload}
    (allowed : shut = false) (fresh : share.Fresh ttl slug payload) :
    (share.answer slug ifNoneMatch shut payload).Sound ttl where
  shut := sound.shut
  empty := sound.empty
  readers := sound.readers
  lifetimes := sound.lifetimes
  answers answer member := by
    rcases List.mem_append.mp member with before | last
    · exact sound.answers answer before
    · rw [List.mem_singleton.mp last]
      exact ⟨allowed, by simpa [Fresh] using fresh⟩

theorem Sound.dropReader (sound : share.Sound ttl) (id : Nat) : (share.dropReader id).Sound ttl where
  shut := sound.shut
  empty := sound.empty
  readers reader member := sound.readers reader (List.mem_filter.mp member).1
  lifetimes := sound.lifetimes
  answers := sound.answers

theorem Sound.lookUp (sound : share.Sound ttl) (slug : String) (ifNoneMatch : Option String) (failed : Bool) :
    (share.lookUp ttl slug ifNoneMatch failed).Sound ttl := by
  unfold PublicShare.lookUp
  split
  · split
    · rename_i entry hit
      split at hit
      · contradiction
      · have live := List.find?_some hit
        simp only [decide_eq_true_eq] at live
        refine sound.answer ifNoneMatch ?_ (Or.inr ?_)
        · rw [decide_eq_false_iff_not]
          intro closed
          have nothing := sound.empty slug closed
          rw [hit] at nothing
          contradiction
        · have bound := sound.lifetimes entry (List.mem_of_find?_eq_some hit)
          omega
    · refine { sound with readers := ?_ }
      intro reader member closed
      rcases List.mem_append.mp member with before | last
      · exact sound.readers reader before closed
      · rw [List.mem_singleton.mp last] at closed ⊢
        exact ⟨of_decide_eq_true closed, rfl⟩
  · exact sound

theorem Sound.build (sound : share.Sound ttl) (digest : Nat → String) (id : Nat) :
    (share.build digest id).Sound ttl := by
  unfold PublicShare.build
  split
  · exact sound
  · rename_i reader found
    split
    · exact sound
    · exact sound.dropReader id
    · rename_i view unbuilt built
      refine { sound with readers := ?_ }
      intro other member closed
      obtain ⟨former, before, rfl⟩ := List.mem_map.mp member
      by_cases same : former = reader
      · rw [if_pos same] at closed
        have shut := (sound.readers reader (List.mem_of_find?_eq_some found) closed).1
        exact absurd (isOpen_of_buildPublicView built) (sound.shut reader.slug shut)
      · rw [if_neg same] at closed ⊢
        exact sound.readers former before closed

theorem Sound.setCached (sound : share.Sound ttl) {payload : Payload} {failed : Bool}
    (prompt : failed = false → 0 < ttl → share.clock = payload.built ∧ slug ∉ share.shut) :
    (share.setCached ttl slug payload failed).Sound ttl := by
  unfold PublicShare.setCached
  split
  · exact sound
  · rename_i stores
    obtain ⟨now, unshut⟩ := prompt (by simpa using (not_or.mp stores).2) (Nat.pos_of_ne_zero (not_or.mp stores).1)
    refine { sound with empty := ?_, lifetimes := ?_ }
    · intro other closed
      rw [cached_eq_none]
      intro entry member own
      rcases List.mem_cons.mp member with rfl | before
      · subst own
        exact absurd closed unshut
      · exact cached_eq_none.mp (sound.empty other closed) entry (List.mem_filter.mp before).1 own
    · intro entry member
      rcases List.mem_cons.mp member with rfl | before
      · exact Nat.add_le_add_right (Nat.le_of_eq now) ttl
      · exact sound.lifetimes entry (List.mem_filter.mp before).1

theorem Sound.store (sound : share.Sound ttl) {failed : Bool}
    (prompt : ∀ reader ∈ share.reader id, share.Prompt ttl reader failed) :
    (share.store ttl id failed).Sound ttl := by
  unfold PublicShare.store
  split
  · exact sound
  · rename_i reader found
    split
    · exact sound
    · rename_i payload built
      obtain ⟨fresh, timely⟩ := prompt reader found payload built
      refine ((sound.setCached timely).answer _ ?_ ?_).dropReader id
      · cases closed : reader.shut with
        | false => rfl
        | true =>
            have unbuilt := (sound.readers reader (List.mem_of_find?_eq_some found) closed).2
            rw [built] at unbuilt
            contradiction
      · unfold PublicShare.setCached
        split <;> exact fresh

theorem Sound.publish (sound : share.Sound ttl) (slug : String) (evicts shuts : Option String) :
    (share.publish slug evicts shuts).Sound ttl where
  shut other member := by
    obtain ⟨_, differs⟩ := List.mem_filter.mp member
    rintro ⟨same, _⟩
    obtain rfl : slug = other := Option.some.inj same
    simp at differs
  empty other member := sound.empty other (List.mem_filter.mp member).1
  readers reader member closed := by
    obtain ⟨former, before, rfl⟩ := List.mem_map.mp member
    by_cases own : former.slug = slug
    · rw [if_pos own] at closed
      contradiction
    · rw [if_neg own] at closed ⊢
      obtain ⟨shut, unbuilt⟩ := sound.readers former before closed
      exact ⟨List.mem_filter.mpr ⟨shut, by simpa using own⟩, unbuilt⟩
  lifetimes := sound.lifetimes
  answers := sound.answers

theorem Sound.attempt (sound : share.Sound ttl) (rotates : Bool) (retire : Option String) (attempts : Nat)
    (draws : List String) (commits : Bool) : (share.attempt rotates retire attempts draws commits).Sound ttl := by
  unfold PublicShare.attempt
  dsimp only
  split
  · exact sound
  · split
    · split <;> exact sound.publish ..
    · exact { sound with }

theorem Sound.enable (sound : share.Sound ttl) (draws : List String) (commits : Bool) :
    (share.enable draws commits).Sound ttl := by
  unfold PublicShare.enable
  split
  · split
    · split
      · exact sound.publish ..
      · exact sound
    · exact sound.attempt ..
  · exact sound

theorem Sound.rotate (sound : share.Sound ttl) (draws : List String) (commits : Bool) :
    (share.rotate draws commits).Sound ttl := by
  unfold PublicShare.rotate
  split
  · exact sound.attempt ..
  · exact sound

theorem Sound.retry (sound : share.Sound ttl) (id : Nat) (draws : List String) (commits : Bool) :
    (share.retry id draws commits).Sound ttl := by
  unfold PublicShare.retry
  split
  · exact sound
  · have rolledBack : Sound ttl { share with retries := share.retries.filter (·.id ≠ id) } := { sound with }
    exact rolledBack.attempt ..

theorem Sound.disable (sound : share.Sound ttl) : share.disable.Sound ttl := by
  refine { sound with shut := ?_ }
  intro slug member
  have closed := sound.shut slug member
  unfold PublicShare.disable
  dsimp only
  split
  · rintro ⟨_, on⟩
    contradiction
  · exact closed

theorem mem_of_mem_evictCached {cache : List CacheEntry} {evicted : Option String} {failed : Bool}
    {entry : CacheEntry} (member : entry ∈ evictCached cache evicted failed) : entry ∈ cache := by
  unfold evictCached at member
  split at member
  · exact member
  · exact (List.mem_filter.mp member).1

theorem Sound.evict (sound : share.Sound ttl) {failed : Bool}
    (evicts : ∀ call ∈ share.call id, share.Evicts call failed) : (share.evict id failed).Sound ttl := by
  unfold PublicShare.evict
  split
  · exact sound
  · rename_i call found
    have shuts : ∀ slug ∈ call.shuts.toList.filter (fun slug => ¬share.rows.IsOpen slug),
        slug ∈ call.shuts ∧ ¬share.rows.IsOpen slug := by
      intro slug member
      simpa using List.mem_filter.mp member
    refine { sound with shut := ?_, empty := ?_, readers := ?_, lifetimes := ?_ }
    · intro slug member
      rcases List.mem_append.mp member with now | before
      · exact (shuts slug now).2
      · exact sound.shut slug before
    · intro slug member
      rw [cached_eq_none]
      intro entry held own
      have old := mem_of_mem_evictCached held
      rcases List.mem_append.mp member with now | before
      · obtain ⟨shut, closed⟩ := shuts slug now
        by_cases lingers : failed = true ∨ call.evicts ≠ some slug
        · exact cached_eq_none.mp (evicts call found slug shut closed lingers) entry old own
        · obtain ⟨succeeds, same⟩ := not_or.mp lingers
          rw [evictCached, if_neg succeeds, not_not.mp same] at held
          simp [own] at held
      · exact cached_eq_none.mp (sound.empty slug before) entry old own
    · intro reader member closed
      obtain ⟨shut, unbuilt⟩ := sound.readers reader member closed
      exact ⟨List.mem_append_right _ shut, unbuilt⟩
    · intro entry member
      exact sound.lifetimes entry (mem_of_mem_evictCached member)

theorem Sound.edit (sound : share.Sound ttl) {rows : Rows}
    (same : rows.slug = share.rows.slug ∧ rows.enabled = share.rows.enabled) : (share.edit rows).Sound ttl where
  shut slug member := by
    rintro ⟨current, on⟩
    exact sound.shut slug member ⟨same.1 ▸ current, same.2 ▸ on⟩
  empty := sound.empty
  readers := sound.readers
  lifetimes := sound.lifetimes
  answers := sound.answers

theorem Sound.wait (sound : share.Sound ttl) (seconds : Nat) :
    Sound ttl { share with clock := share.clock + seconds } where
  shut := sound.shut
  empty slug member := by
    rw [cached_eq_none]
    intro entry held own
    exact Nat.le_add_right_of_le (cached_eq_none.mp (sound.empty slug member) entry held own)
  readers := sound.readers
  lifetimes := sound.lifetimes
  answers := sound.answers

theorem Sound.step (sound : share.Sound ttl) (digest : Nat → String) (event : ShareEvent)
    (careful : share.Careful ttl event) : (share.step digest ttl event).Sound ttl := by
  cases event with
  | enable draws commits => exact sound.enable draws commits
  | rotate draws commits => exact sound.rotate draws commits
  | retry id draws commits => exact sound.retry id draws commits
  | disable => exact sound.disable
  | evict id failed => exact sound.evict careful
  | lookUp slug ifNoneMatch failed => exact sound.lookUp slug ifNoneMatch failed
  | build id => exact sound.build digest id
  | store id failed => exact sound.store careful
  | abort id => exact sound.dropReader id
  | rename | writeStage | writeCoverage => exact sound.edit ⟨rfl, rfl⟩
  | wait seconds => exact sound.wait seconds

theorem sound_initial (rows : Rows) : Sound ttl { rows } := by
  constructor <;> simp

/-- In a run of careful steps no answer is to a read of a link shut before it began, nor past the cache's lifetime. -/
theorem shut_links_stay_private (digest : Nat → String) (ttl : Nat) (rows : Rows) (events : List ShareEvent)
    (careful : Along (step digest ttl) (Careful ttl) { rows } events) :
    ∀ answer ∈ (play (step digest ttl) { rows } events).answers, answer.Rightful ttl := by
  have kept : ∀ state event, Sound ttl state → Careful ttl state event → Sound ttl (state.step digest ttl event) :=
    fun _ event sound careful => sound.step digest event careful
  exact (careful.invariant kept (sound_initial rows)).answers

def sampleRows : Rows := { name := "Atlas", stages := fun _ => some { status := .finalised, content := "text" } }

def sampleSlug : String := "abcdefghjkmnpqrs"

def sampleRun : List ShareEvent :=
  [.enable [sampleSlug] true, .evict 0 false, .lookUp sampleSlug none false, .build 1, .store 1 false,
    .wait 30, .lookUp sampleSlug none false, .disable, .evict 2 false, .lookUp sampleSlug none false, .build 3]

def samplePayload (built : Nat) : Payload where
  etag := "0"
  body := { sampleRows.publicContent with sharedAt := 0 }
  built := built
  edits := 0

def sampleAnswer (since : Nat) : Answer :=
  ⟨sampleSlug, samplePayload 0, none, false, false, since, true⟩

theorem shut_links_stay_private_sample : (sampleAnswer 30).Rightful 60 :=
  shut_links_stay_private Nat.repr 60 sampleRows sampleRun (by decide) (sampleAnswer 30) (by decide)

def slowReadRun : List ShareEvent :=
  [.enable [sampleSlug] true, .evict 0 false, .lookUp sampleSlug none false, .build 1, .disable, .evict 2 false,
    .store 1 false, .lookUp sampleSlug none false]

def failedEvictionRun : List ShareEvent :=
  [.enable [sampleSlug] true, .evict 0 false, .lookUp sampleSlug none false, .build 1, .store 1 false, .disable,
    .evict 2 true, .lookUp sampleSlug none false]

def lateStoreRun : List ShareEvent :=
  [.enable [sampleSlug] true, .evict 0 false, .lookUp sampleSlug none false, .build 1, .wait 60, .store 1 false,
    .rename "Borealis", .wait 30, .lookUp sampleSlug none false]

theorem shut_link_served :
    (∃ answer ∈ (play (step Nat.repr 60) { rows := sampleRows } slowReadRun).answers, answer.shut = true) ∧
      (∃ answer ∈ (play (step Nat.repr 60) { rows := sampleRows } failedEvictionRun).answers, answer.shut = true) ∧
      ∃ answer ∈ (play (step Nat.repr 60) { rows := sampleRows } lateStoreRun).answers,
        answer.isCurrent = false ∧ 60 < answer.since := by
  decide

end PublicShare

end Thought2Build.Sharing
