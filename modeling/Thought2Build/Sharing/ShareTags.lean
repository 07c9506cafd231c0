import Thought2Build.Sharing.PublicShares

/-!
What the tag of a public answer says of its body. It is taken from the stamp of the link alone, which
only its owner's calls move.
-/

namespace Thought2Build.Sharing

open Histories

namespace PublicShare

variable {digest : Nat → String} {ttl : Nat} {share : PublicShare} {contents : Nat → PublicContent} {id : Nat}

structure Traces (digest : Nat → String) (contents : Nat → PublicContent) (edits : Nat) (payload : Payload) :
    Prop where
  edits : payload.edits ≤ edits
  etag : payload.etag = etagFor digest payload.body
  body : payload.body.toPublicContent = contents payload.edits

structure Traced (digest : Nat → String) (contents : Nat → PublicContent) (share : PublicShare) : Prop where
  now : share.rows.publicContent = contents share.edits
  cache : ∀ entry ∈ share.cache, Traces digest contents share.edits entry.payload
  readers : ∀ reader ∈ share.readers, ∀ payload ∈ reader.payload, Traces digest contents share.edits payload
  answers : ∀ answer ∈ share.answers, Traces digest contents share.edits answer.payload
  tags : ∀ answer ∈ share.answers, answer.notModified = true → answer.ifNoneMatch = some answer.payload.etag

theorem Traced.answer (traced : share.Traced digest contents) (slug : String) (ifNoneMatch : Option String)
    (shut : Bool) {payload : Payload} (traces : Traces digest contents share.edits payload) :
    (share.answer slug ifNoneMatch shut payload).Traced digest contents where
  now := traced.now
  cache := traced.cache
  readers := traced.readers
  answers answer member := by
    rcases List.mem_append.mp member with before | last
    · exact traced.answers answer before
    · rw [List.mem_singleton.mp last]
      exact traces
  tags answer member := by
    rcases List.mem_append.mp member with before | last
    · exact traced.tags answer before
    · rw [List.mem_singleton.mp last]
      intro hit
      simpa [notModified] using hit

theorem Traced.dropReader (traced : share.Traced digest contents) (id : Nat) :
    (share.dropReader id).Traced digest contents :=
  { traced with readers := fun reader member => traced.readers reader (List.mem_filter.mp member).1 }

theorem Traced.lookUp (traced : share.Traced digest contents) (ttl : Nat) (slug : String)
    (ifNoneMatch : Option String) (failed : Bool) :
    (share.lookUp ttl slug ifNoneMatch failed).Traced digest contents := by
  unfold PublicShare.lookUp
  split
  · split
    · rename_i entry hit
      split at hit
      · contradiction
      · exact traced.answer slug ifNoneMatch _ (traced.cache entry (List.mem_of_find?_eq_some hit))
    · refine { traced with readers := ?_ }
      intro reader member payload built
      rcases List.mem_append.mp member with before | last
      · exact traced.readers reader before payload built
      · rw [List.mem_singleton.mp last] at built
        contradiction
  · exact traced

theorem Traced.build (traced : share.Traced digest contents) (id : Nat) :
    (share.build digest id).Traced digest contents := by
  unfold PublicShare.build
  split
  · exact traced
  · split
    · exact traced
    · exact traced.dropReader id
    · rename_i reader _ _ _ view _ built
      have shown : view.toPublicContent = share.rows.publicContent := by
        unfold Rows.buildPublicView at built
        split at built
        · rw [← Option.some.inj built]
        · contradiction
      refine { traced with readers := ?_ }
      intro other member payload has
      obtain ⟨former, before, rfl⟩ := List.mem_map.mp member
      by_cases same : former = reader
      · rw [if_pos same] at has
        obtain rfl := Option.some.inj has
        exact { edits := Nat.le_refl _, etag := rfl, body := shown.trans traced.now }
      · rw [if_neg same] at has
        exact traced.readers former before payload has

theorem Traced.setCached (traced : share.Traced digest contents) (slug : String) {payload : Payload}
    (failed : Bool) (traces : Traces digest contents share.edits payload) :
    (share.setCached ttl slug payload failed).Traced digest contents := by
  unfold PublicShare.setCached
  split
  · exact traced
  · refine { traced with cache := ?_ }
    intro entry member
    rcases List.mem_cons.mp member with rfl | before
    · exact traces
    · exact traced.cache entry (List.mem_filter.mp before).1

theorem setCached_edits (share : PublicShare) (slug : String) (payload : Payload) (failed : Bool) :
    (share.setCached ttl slug payload failed).edits = share.edits := by
  unfold PublicShare.setCached
  split <;> rfl

theorem Traced.store (traced : share.Traced digest contents) (ttl : Nat) (id : Nat) (failed : Bool) :
    (share.store ttl id failed).Traced digest contents := by
  unfold PublicShare.store
  split
  · exact traced
  · rename_i reader found
    split
    · exact traced
    · rename_i payload built
      have traces := traced.readers reader (List.mem_of_find?_eq_some found) payload built
      refine ((traced.setCached reader.slug failed traces).answer _ _ _ ?_).dropReader id
      rwa [setCached_edits]

theorem Traced.publish (traced : share.Traced digest contents) (slug : String) (evicts shuts : Option String) :
    (share.publish slug evicts shuts).Traced digest contents := by
  refine { traced with readers := ?_ }
  intro reader member payload has
  obtain ⟨former, before, rfl⟩ := List.mem_map.mp member
  refine traced.readers former before payload ?_
  split at has <;> exact has

theorem Traced.attempt (traced : share.Traced digest contents) (rotates : Bool) (retire : Option String)
    (attempts : Nat) (draws : List String) (commits : Bool) :
    (share.attempt rotates retire attempts draws commits).Traced digest contents := by
  unfold PublicShare.attempt
  dsimp only
  split
  · exact traced
  · split
    · split <;> exact traced.publish ..
    · exact { traced with }

theorem Traced.enable (traced : share.Traced digest contents) (draws : List String) (commits : Bool) :
    (share.enable draws commits).Traced digest contents := by
  unfold PublicShare.enable
  split
  · split
    · split
      · exact traced.publish ..
      · exact traced
    · exact traced.attempt ..
  · exact traced

theorem Traced.rotate (traced : share.Traced digest contents) (draws : List String) (commits : Bool) :
    (share.rotate draws commits).Traced digest contents := by
  unfold PublicShare.rotate
  split
  · exact traced.attempt ..
  · exact traced

theorem Traced.retry (traced : share.Traced digest contents) (id : Nat) (draws : List String) (commits : Bool) :
    (share.retry id draws commits).Traced digest contents := by
  unfold PublicShare.retry
  split
  · exact traced
  · have rolledBack : Traced digest contents { share with retries := share.retries.filter (·.id ≠ id) } :=
      { traced with }
    exact rolledBack.attempt ..

theorem Traced.disable (traced : share.Traced digest contents) : share.disable.Traced digest contents := by
  refine { traced with now := ?_ }
  refine Eq.trans ?_ traced.now
  unfold PublicShare.disable
  dsimp only
  split <;> rfl

theorem Traced.evict (traced : share.Traced digest contents) (id : Nat) (failed : Bool) :
    (share.evict id failed).Traced digest contents := by
  unfold PublicShare.evict
  split
  · exact traced
  · exact { traced with cache := fun entry member => traced.cache entry (mem_of_mem_evictCached member) }

theorem Traced.edit (traced : share.Traced digest contents) (rows : Rows) :
    ∃ contents, (share.edit rows).Traced digest contents := by
  by_cases same : rows.publicContent = share.rows.publicContent
  · refine ⟨contents, ?_⟩
    have kept : share.edit rows = { share with rows } := by simp [PublicShare.edit, same]
    rw [kept]
    exact { traced with now := same.trans traced.now }
  · have counted : (share.edit rows).edits = share.edits + 1 := by simp [PublicShare.edit, same]
    refine ⟨Function.update contents (share.edits + 1) rows.publicContent, ?_⟩
    have kept : ∀ payload, Traces digest contents share.edits payload →
        Traces digest (Function.update contents (share.edits + 1) rows.publicContent)
          (share.edit rows).edits payload := by
      intro payload traces
      have earlier := traces.edits
      refine { edits := by omega, etag := traces.etag, body := ?_ }
      rw [Function.update_of_ne (by omega)]
      exact traces.body
    constructor
    · rw [counted, Function.update_self]
      rfl
    · exact fun entry member => kept _ (traced.cache entry member)
    · exact fun reader member payload has => kept _ (traced.readers reader member payload has)
    · exact fun answer member => kept _ (traced.answers answer member)
    · exact traced.tags

theorem Traced.step (traced : share.Traced digest contents) (ttl : Nat) (event : ShareEvent) :
    ∃ contents, (share.step digest ttl event).Traced digest contents := by
  cases event with
  | enable draws commits => exact ⟨contents, traced.enable draws commits⟩
  | rotate draws commits => exact ⟨contents, traced.rotate draws commits⟩
  | retry id draws commits => exact ⟨contents, traced.retry id draws commits⟩
  | disable => exact ⟨contents, traced.disable⟩
  | evict id failed => exact ⟨contents, traced.evict id failed⟩
  | lookUp slug ifNoneMatch failed => exact ⟨contents, traced.lookUp ttl slug ifNoneMatch failed⟩
  | build id => exact ⟨contents, traced.build id⟩
  | store id failed => exact ⟨contents, traced.store ttl id failed⟩
  | abort id => exact ⟨contents, traced.dropReader id⟩
  | rename | writeStage | writeCoverage => exact traced.edit _
  | wait seconds => exact ⟨contents, { traced with }⟩

def Confirms (first second : Answer) : Prop :=
  second.payload.etag = first.payload.etag ∨
    (second.notModified = true ∧ second.ifNoneMatch = some first.payload.etag)

instance (first second : Answer) : Decidable (Confirms first second) := inferInstanceAs (Decidable (_ ∨ _))

theorem eq_of_content {first second : PublicView} (content : first.toPublicContent = second.toPublicContent)
    (stamp : first.sharedAt = second.sharedAt) : first = second := by
  cases first
  cases second
  cases content
  cases stamp
  rfl

/-- Answers under one tag show one stamp; and one body where no edit between their builds shows. -/
theorem tags_identify_stamps (digest : Nat → String) (ttl : Nat) (rows : Rows) (events : List ShareEvent)
    (first : Answer) (past : first ∈ (play (step digest ttl) { rows } events).answers)
    (second : Answer) (later : second ∈ (play (step digest ttl) { rows } events).answers)
    (confirms : Confirms first second)
    (apart : digest second.payload.body.sharedAt = digest first.payload.body.sharedAt →
      second.payload.body.sharedAt = first.payload.body.sharedAt) :
    second.payload.body.sharedAt = first.payload.body.sharedAt ∧
      (second.payload.edits = first.payload.edits → second.payload.body = first.payload.body) := by
  have kept : ∀ state event, (∃ contents, Traced digest contents state) →
      ∃ contents, Traced digest contents (state.step digest ttl event) :=
    fun _ event ⟨_, traced⟩ => traced.step ttl event
  have initial : ∃ contents, Traced digest contents { rows } :=
    ⟨fun _ => rows.publicContent, by constructor <;> simp⟩
  obtain ⟨contents, traced⟩ := invariant kept initial events
  have tags : second.payload.etag = first.payload.etag := by
    rcases confirms with same | ⟨hit, sent⟩
    · exact same
    · have own := traced.tags second later hit
      rw [sent] at own
      exact (Option.some.inj own).symm
  have one := traced.answers first past
  have two := traced.answers second later
  have stamps := apart (two.etag.symm.trans (tags.trans one.etag))
  refine ⟨stamps, ?_⟩
  intro edits
  exact eq_of_content (two.body.trans ((congrArg contents edits).trans one.body.symm)) stamps

def rereadRun : List ShareEvent :=
  [.enable [sampleSlug] true, .evict 0 false, .lookUp sampleSlug none false, .build 1, .store 1 false, .wait 60,
    .lookUp sampleSlug (some "0") false, .build 2, .store 2 false]

theorem tags_identify_stamps_reread : (samplePayload 60).body = (samplePayload 0).body :=
  (tags_identify_stamps Nat.repr 60 sampleRows rereadRun
    (sampleAnswer 0) (by decide)
    ⟨sampleSlug, samplePayload 60, some "0", true, false, 0, true⟩ (by decide)
    (Or.inl rfl) (fun _ => rfl)).2 rfl

def renameRun : List ShareEvent :=
  [.enable [sampleSlug] true, .evict 0 false, .lookUp sampleSlug none false, .build 1, .store 1 false,
    .rename "Borealis", .wait 60, .lookUp sampleSlug (some "0") false, .build 2, .store 2 false,
    .lookUp sampleSlug none false]

theorem tag_outlives_rename :
    let answers := (play (step Nat.repr 60) { rows := sampleRows } renameRun).answers
    ∃ first ∈ answers, first.notModified = false ∧
      (∃ second ∈ answers, second.notModified = false ∧ second.slug = first.slug ∧
        second.payload.etag = first.payload.etag ∧ second.payload.body ≠ first.payload.body) ∧
      ∃ second ∈ answers, second.notModified = true ∧ second.ifNoneMatch = some first.payload.etag ∧
        second.payload.body ≠ first.payload.body := by
  decide

end PublicShare

end Thought2Build.Sharing
