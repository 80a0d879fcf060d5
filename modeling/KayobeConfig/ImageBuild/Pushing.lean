import Mathlib.Data.List.Nodup
import KayobeConfig.Library.Workflow

/-!
The "Push images" step of the container image build: each image of the list is pushed until that
succeeds, five times at most, and is put on the list of failed images after the fifth failure.
-/

namespace ImageBuild

open Library

/-- How one `docker push` ends. The registry may hold the image though the command failed. -/
inductive PushResult
  | pushed
  | failed (landed : Bool)
  | interrupted (landed : Bool)
  deriving DecidableEq

def PushResult.landed : PushResult → Bool
  | .pushed => true
  | .failed landed | .interrupted landed => landed

structure Push where
  image : String
  result : PushResult
  deriving DecidableEq

structure Pushing where
  pushes : List Push
  pushFailedImages : List String
  deriving DecidableEq

def Pushing.called (pushing : Pushing) (image : String) (result : PushResult) : Pushing :=
  { pushing with pushes := pushing.pushes ++ [⟨image, result⟩] }

def pushImage (answers : Nat → PushResult) (image : String) : List Nat → Pushing → Pushing × Outcome
  | [], pushing => (pushing, .success)
  | i :: tries, pushing =>
      let result := answers pushing.pushes.length
      let called := pushing.called image result
      match result with
      | .pushed => (called, .success)
      | .failed _ =>
          if i = 5 then
            pushImage answers image tries
              { called with pushFailedImages := called.pushFailedImages ++ [image] }
          else pushImage answers image tries called
      | .interrupted _ => (called, .cancelled)

def pushImages (answers : Nat → PushResult) : List String → Pushing → Pushing × Outcome
  | [], pushing => (pushing, .success)
  | image :: images, pushing =>
      let tried := pushImage answers image [1, 2, 3, 4, 5] pushing
      if tried.2 = .success then pushImages answers images tried.1 else tried

section Tries

variable (answers : Nat → PushResult) (image : String)

/-- What the tries of one image do, from the pushes and failed images that were there. -/
structure Tried (image : String) (tries : Nat) (before : Pushing) (after : Pushing × Outcome)
    (pushes : List Push) : Prop where
  extends_pushes : after.1.pushes = before.pushes ++ pushes
  same_image : ∀ push ∈ pushes, push.image = image
  bounded : pushes.length ≤ tries
  not_failure : after.2 ≠ .failure
  recorded : after.2 = .success →
    after.1.pushFailedImages = before.pushFailedImages ++
      if (⟨image, .pushed⟩ : Push) ∈ pushes then [] else [image]
  unfinished : after.2 ≠ .success → (⟨image, .pushed⟩ : Push) ∉ pushes

theorem pushImage_tried (earlier : List Nat) (numbered : 5 ∉ earlier) (before : Pushing) :
    ∃ pushes, Tried image (earlier.length + 1) before
      (pushImage answers image (earlier ++ [5]) before) pushes := by
  induction earlier generalizing before with
  | nil =>
      cases answer : answers before.pushes.length with
      | pushed =>
          refine ⟨[⟨image, .pushed⟩], ?_, ?_, ?_, ?_, ?_, ?_⟩ <;>
            simp [pushImage, answer, Pushing.called]
      | failed landed =>
          refine ⟨[⟨image, .failed landed⟩], ?_, ?_, ?_, ?_, ?_, ?_⟩ <;>
            simp [pushImage, answer, Pushing.called]
      | interrupted landed =>
          refine ⟨[⟨image, .interrupted landed⟩], ?_, ?_, ?_, ?_, ?_, ?_⟩ <;>
            simp [pushImage, answer, Pushing.called]
  | cons i earlier ih =>
      have notLast : i ≠ 5 := fun last => numbered (last ▸ List.mem_cons_self)
      have later : 5 ∉ earlier := fun member => numbered (List.mem_cons_of_mem i member)
      cases answer : answers before.pushes.length with
      | pushed =>
          refine ⟨[⟨image, .pushed⟩], ?_, ?_, ?_, ?_, ?_, ?_⟩ <;>
            simp [pushImage, answer, Pushing.called]
      | failed landed =>
          obtain ⟨pushes, tried⟩ := ih later (before.called image (.failed landed))
          have step : pushImage answers image (i :: earlier ++ [5]) before =
              pushImage answers image (earlier ++ [5]) (before.called image (.failed landed)) := by
            simp [pushImage, answer, notLast]
          rw [step]
          refine ⟨⟨image, .failed landed⟩ :: pushes, ?_, ?_, ?_, tried.not_failure, ?_, ?_⟩
          · rw [tried.extends_pushes]
            simp [Pushing.called]
          · intro push member
            rcases List.mem_cons.mp member with rfl | member
            · rfl
            · exact tried.same_image push member
          · have bound := tried.bounded
            simp only [List.length_cons]
            omega
          · intro finished
            rw [tried.recorded finished]
            simp [Pushing.called]
          · intro unfinished
            have none := tried.unfinished unfinished
            simp [none]
      | interrupted landed =>
          refine ⟨[⟨image, .interrupted landed⟩], ?_, ?_, ?_, ?_, ?_, ?_⟩ <;>
            simp [pushImage, answer, Pushing.called]

theorem pushImage_five (before : Pushing) :
    ∃ pushes, Tried image 5 before (pushImage answers image [1, 2, 3, 4, 5] before) pushes :=
  pushImage_tried answers image [1, 2, 3, 4] (by decide) before

end Tries

/-- What the loop over a list of distinct images does. -/
structure PushedAll (images : List String) (before : Pushing) (after : Pushing × Outcome)
    (pushes : List Push) : Prop where
  extends_pushes : after.1.pushes = before.pushes ++ pushes
  listed : ∀ push ∈ pushes, push.image ∈ images
  bounded : ∀ image, (pushes.countP fun push => push.image = image) ≤ 5
  not_failure : after.2 ≠ .failure
  recorded : after.2 = .success →
    after.1.pushFailedImages = before.pushFailedImages ++
      images.filter fun image => (⟨image, .pushed⟩ : Push) ∉ pushes
  unfinished : after.2 ≠ .success → ∃ image ∈ images, (⟨image, .pushed⟩ : Push) ∉ pushes

theorem pushImages_all (answers : Nat → PushResult) {images : List String} (distinct : images.Nodup)
    (before : Pushing) :
    ∃ pushes, PushedAll images before (pushImages answers images before) pushes := by
  induction images generalizing before with
  | nil => refine ⟨[], ?_, ?_, ?_, ?_, ?_, ?_⟩ <;> simp [pushImages]
  | cons image images ih =>
      obtain ⟨absent, distinct⟩ := List.nodup_cons.mp distinct
      obtain ⟨first, tried⟩ := pushImage_five answers image before
      have firstCount (other : String) : (first.countP fun push => push.image = other) ≤ 5 :=
        Nat.le_trans List.countP_le_length tried.bounded
      by_cases finished : (pushImage answers image [1, 2, 3, 4, 5] before).2 = .success
      · obtain ⟨rest, all⟩ := ih distinct (pushImage answers image [1, 2, 3, 4, 5] before).1
        have step : pushImages answers (image :: images) before =
            pushImages answers images (pushImage answers image [1, 2, 3, 4, 5] before).1 := by
          simp [pushImages, finished]
        rw [step]
        refine ⟨first ++ rest, ?_, ?_, ?_, all.not_failure, ?_, ?_⟩
        · rw [all.extends_pushes, tried.extends_pushes, List.append_assoc]
        · intro push member
          rcases List.mem_append.mp member with member | member
          · exact tried.same_image push member ▸ List.mem_cons_self
          · exact List.mem_cons_of_mem image (all.listed push member)
        · intro other
          rw [List.countP_append]
          by_cases same : other = image
          · have none : (rest.countP fun push => push.image = other) = 0 := by
              rw [List.countP_eq_zero]
              intro push member
              have listed := all.listed push member
              simp only [decide_eq_true_eq]
              rintro named
              exact absent (same ▸ named ▸ listed)
            have bound := firstCount other
            omega
          · have none : (first.countP fun push => push.image = other) = 0 := by
              rw [List.countP_eq_zero]
              intro push member
              simp only [decide_eq_true_eq, tried.same_image push member]
              exact Ne.symm same
            have bound := all.bounded other
            omega
        · intro completed
          rw [all.recorded completed, tried.recorded finished, List.append_assoc]
          have notLater : (⟨image, .pushed⟩ : Push) ∉ rest := fun member =>
            absent (all.listed _ member)
          have others : (images.filter fun other => (⟨other, .pushed⟩ : Push) ∉ first ++ rest) =
              images.filter fun other => (⟨other, .pushed⟩ : Push) ∉ rest := by
            apply List.filter_congr
            intro other member
            have notFirst : (⟨other, .pushed⟩ : Push) ∉ first := by
              intro pushed
              have named : other = image := tried.same_image _ pushed
              exact absent (named ▸ member)
            simp [notFirst]
          rw [List.filter_cons, others]
          by_cases pushed : (⟨image, .pushed⟩ : Push) ∈ first <;> simp [pushed, notLater]
        · intro unfinished
          obtain ⟨other, member, notLater⟩ := all.unfinished unfinished
          refine ⟨other, List.mem_cons_of_mem image member, ?_⟩
          rw [List.mem_append, not_or]
          refine ⟨?_, notLater⟩
          intro pushed
          have named : other = image := tried.same_image _ pushed
          exact absent (named ▸ member)
      · have step : pushImages answers (image :: images) before =
            pushImage answers image [1, 2, 3, 4, 5] before := by
          simp [pushImages, finished]
        rw [step]
        refine ⟨first, tried.extends_pushes, ?_, firstCount, tried.not_failure, ?_, ?_⟩
        · intro push member
          exact tried.same_image push member ▸ List.mem_cons_self
        · intro completed
          exact absurd completed finished
        · intro unfinished
          exact ⟨image, List.mem_cons_self, tried.unfinished unfinished⟩

end ImageBuild
