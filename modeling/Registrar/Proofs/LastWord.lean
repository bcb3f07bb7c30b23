import Registrar.Cache
/-!
# The last word on an object

What a cache shows under a key is the last word that its watch has heard on it: a change since the
last complete listing, or else what that listing had. A listing that is still open counts for
nothing. So an object of the first listing is shown from then on, until it is deleted or a later
listing lacks it.

Events are told here latest first, so the last word is the first one that is found.
-/

set_option autoImplicit false

namespace Registrar

variable {α : Type} [HasMetadata α]

/-! ## Words -/

namespace CacheEvent

/-- What the listing that is open holds under a key. -/
def openListing? (key : ObjectKey) : List (CacheEvent α) → Option α
  | [] => none
  | .listStarted :: _ => none
  | .listEnded :: _ => none
  | .listed object :: earlier =>
      if key = keyOf object then some object else openListing? key earlier
  | .applied _ :: earlier => openListing? key earlier
  | .deleted _ :: earlier => openListing? key earlier

def lastWord? (key : ObjectKey) : List (CacheEvent α) → Option α
  | [] => none
  | .listStarted :: earlier => lastWord? key earlier
  | .listed _ :: earlier => lastWord? key earlier
  | .listEnded :: earlier => openListing? key earlier
  | .applied object :: earlier =>
      if key = keyOf object then some object else lastWord? key earlier
  | .deleted object :: earlier =>
      if key = keyOf object then none else lastWord? key earlier

/-- The event removes what is shown under a key: it is deleted, or absent from a listing. -/
def Removes (key : ObjectKey) (earlier : List (CacheEvent α)) : CacheEvent α → Prop
  | .deleted object => key = keyOf object
  | .listEnded => openListing? key earlier = none
  | _ => False

theorem keyOf_openListing {key : ObjectKey} {events : List (CacheEvent α)} {object : α}
    (listed : openListing? key events = some object) : keyOf object = key := by
  induction events with
  | nil => cases listed
  | cons event earlier ih =>
      cases event with
      | listStarted => cases listed
      | listEnded => cases listed
      | applied => exact ih listed
      | deleted => exact ih listed
      | listed other =>
          unfold openListing? at listed
          split at listed
          · next same =>
              cases listed
              exact same.symm
          · exact ih listed

theorem keyOf_lastWord {key : ObjectKey} {events : List (CacheEvent α)} {object : α}
    (word : lastWord? key events = some object) : keyOf object = key := by
  induction events with
  | nil => cases word
  | cons event earlier ih =>
      cases event with
      | listStarted => exact ih word
      | listed => exact ih word
      | listEnded => exact keyOf_openListing word
      | applied other =>
          unfold lastWord? at word
          split at word
          · next same =>
              cases word
              exact same.symm
          · exact ih word
      | deleted other =>
          unfold lastWord? at word
          split at word
          · cases word
          · exact ih word

/-- What a complete listing had is shown as long as nothing removes it. -/
theorem isSome_lastWord {key : ObjectKey} {listing later : List (CacheEvent α)}
    (listed : (openListing? key listing).isSome = true)
    (kept : ∀ after event between, later = after ++ event :: between →
      ¬ Removes key (between ++ .listEnded :: listing) event) :
    (lastWord? key (later ++ .listEnded :: listing)).isSome = true := by
  -- Each later event either has nothing to do with the key, or says it anew.
  induction later with
  | nil => exact listed
  | cons event between ih =>
      have before := ih fun after other rest split =>
        kept (event :: after) other rest (congrArg (event :: ·) split)
      have here := kept [] event between rfl
      cases event with
      | listStarted => exact before
      | listed => exact before
      | listEnded => exact Option.isSome_iff_ne_none.mpr here
      | applied object =>
          rw [List.cons_append, lastWord?]
          split
          · rfl
          · exact before
      | deleted object =>
          rw [List.cons_append, lastWord?, if_neg (show key ≠ keyOf object from here)]
          exact before

end CacheEvent

/-! ## Caches -/

namespace Cache

open CacheEvent (lastWord? openListing?)

def replay (events : List (CacheEvent α)) : Cache α :=
  events.foldr (fun event cache => cache.handle event) {}

theorem writerDropped_handle (cache : Cache α) (event : CacheEvent α) :
    (cache.handle event).writerDropped = cache.writerDropped := by
  unfold handle
  split
  · rfl
  · cases event <;> rfl

theorem writerDropped_replay (events : List (CacheEvent α)) :
    (replay events).writerDropped = false := by
  induction events with
  | nil => rfl
  | cons event earlier ih => exact (writerDropped_handle _ event).trans ih

theorem replay_cons (event : CacheEvent α) (earlier : List (CacheEvent α)) :
    replay (event :: earlier) =
      let cache := replay earlier
      match event with
      | .listStarted => ⟨cache.visible, [], cache.ready, false⟩
      | .listed object => ⟨cache.visible, cache.pending.insert object, cache.ready, false⟩
      | .listEnded => ⟨cache.pending, [], true, false⟩
      | .applied object => ⟨cache.visible.insert object, cache.pending, cache.ready, false⟩
      | .deleted object =>
          ⟨cache.visible.erase (keyOf object), cache.pending, cache.ready, false⟩ := by
  refine (show replay (event :: earlier) = (replay earlier).handle event from rfl).trans ?_
  unfold handle
  rw [writerDropped_replay]
  cases event <;> rfl

theorem ready_replay_iff (events : List (CacheEvent α)) :
    (replay events).ready = true ↔ .listEnded ∈ events := by
  induction events with
  | nil => simp [replay]
  | cons event earlier ih =>
      rw [replay_cons, List.mem_cons]
      cases event <;> simp [ih]

theorem lookup_pending_replay (events : List (CacheEvent α)) (key : ObjectKey) :
    (replay events).pending.lookup key = openListing? key events := by
  induction events with
  | nil => rfl
  | cons event earlier ih =>
      rw [replay_cons]
      cases event with
      | listStarted => rfl
      | listEnded => rfl
      | applied => exact ih
      | deleted => exact ih
      | listed object =>
          rw [openListing?, ← ih]
          exact CacheContent.lookup_insert _ object key

/-- A cache shows the last word. -/
theorem lookup_visible_replay (events : List (CacheEvent α)) (key : ObjectKey) :
    (replay events).visible.lookup key = lastWord? key events := by
  induction events with
  | nil => rfl
  | cons event earlier ih =>
      rw [replay_cons]
      cases event with
      | listStarted => exact ih
      | listed => exact ih
      | listEnded => exact lookup_pending_replay earlier key
      | applied object =>
          rw [lastWord?, ← ih]
          exact CacheContent.lookup_insert _ object key
      | deleted object =>
          rw [lastWord?, ← ih]
          exact Entries.lookup_erase _ (keyOf object) key

theorem syncOutcome_replay (events : List (CacheEvent α)) :
    (replay events).syncOutcome = if (replay events).ready then some (.ok ()) else none := by
  unfold syncOutcome
  rw [writerDropped_replay]
  rfl

end Cache

end Registrar
