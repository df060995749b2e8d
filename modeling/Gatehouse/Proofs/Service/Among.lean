import Gatehouse.Proofs.Service.Elapse

/-! # Running among others

A service that does not run alone makes each of its calls in a world of which it knows nothing: since
its last call others may have done what they like.  `p.Makes storage calls a` says that the program
makes the calls that are listed, each answered in the world beside it, and ends with `a`.  Nothing
ties one of the worlds to the next; where others are to behave, that is said of the list, most often
by `w.Through storage gap calls w'`.

A chain makes the calls of its first part and then those of the rest (`makes_bind`).  A program that
runs alone is one that runs among others who do nothing (`makes_of_run`), and one that runs as the
clock goes on is one that makes its calls while only the clock goes on (`elapses_iff`).  Since the
list shows at which times the clock was read, it can be said of a service that it is answered if these
are as they should be (`Service.Answers`). -/

namespace Gatehouse

variable {σ α β : Type} {storage : Storage σ} {calls : List (Backend.Op × World σ)}

/-! ### Worlds between calls -/

namespace World

/-- From the first world to the last the calls are made one after the other, each in the world
beside it, to which the gap before it leads; a gap follows the last one too. -/
inductive Through (storage : Storage σ) (gap : World σ → World σ → Prop) :
    World σ → List (Backend.Op × World σ) → World σ → Prop
  | last {w w' : World σ} (h : gap w w') : Through storage gap w [] w'
  | call {op : Backend.Op} {w w₁ w' : World σ} {calls : List (Backend.Op × World σ)}
      (h : gap w w₁) (hrest : Through storage gap (handler storage op w₁).2 calls w') :
      Through storage gap w ((op, w₁) :: calls) w'

variable {gap : World σ → World σ → Prop} {w w₁ w' : World σ}

/-- Where nothing else happens between the calls, something may happen after the last one. -/
theorem Through.of_alone (h : w.Through storage Eq calls w₁) (hrefl : ∀ w, gap w w)
    (hlast : gap w₁ w') : w.Through storage gap calls w' := by
  induction h with
  | last h => exact .last (h ▸ hlast)
  | call h _ ih => exact .call (h ▸ hrefl _) (ih hlast)

/-- What goes on as time passes goes on from an earlier time. -/
theorem Through.of_elapsed (h : w₁.Through storage Elapsed calls w') (helapsed : w.Elapsed w₁) :
    w.Through storage Elapsed calls w' := by
  cases h with
  | last h => exact .last (helapsed.trans h)
  | call h hrest => exact .call (helapsed.trans h) hrest

/-- Calls that were made one after the other were made first one part, then the other. -/
theorem Through.of_append {before after : List (Backend.Op × World σ)} (hrefl : ∀ w, gap w w)
    (h : w.Through storage gap (before ++ after) w') :
    ∃ w₁, w.Through storage gap before w₁ ∧ w₁.Through storage gap after w' := by
  induction before generalizing w with
  | nil => exact ⟨w, .last (hrefl w), h⟩
  | cons c before ih =>
      cases h with
      | call hgap hrest =>
          obtain ⟨w₁, hbefore, hafter⟩ := ih hrest
          exact ⟨w₁, .call hgap hbefore, hafter⟩

/-- What gaps and calls keep holds at every call, and in the end. -/
theorem Through.keeps {P : World σ → Prop} (h : w.Through storage gap calls w')
    (hgap : ∀ w w', gap w w' → P w → P w') (hcall : ∀ op w, P w → P (handler storage op w).2)
    (hw : P w) : (∀ c ∈ calls, P c.2) ∧ P w' := by
  induction h with
  | last h => exact ⟨List.forall_mem_nil _, hgap _ _ h hw⟩
  | call h _ ih =>
      have hw₁ := hgap _ _ h hw
      obtain ⟨hcalls, hend⟩ := ih (hcall _ _ hw₁)
      exact ⟨List.forall_mem_cons.mpr ⟨hw₁, hcalls⟩, hend⟩

end World

/-! ### Programs -/

namespace Program

/-- The program makes the calls, each answered in the world beside it, and ends with the value. -/
inductive Makes (storage : Storage σ) :
    Program Backend α → List (Backend.Op × World σ) → α → Prop
  | done {a : α} : Makes storage (.done a) [] a
  | call {op : Backend.Op} {next : Backend.Answer op → Program Backend α} {w : World σ}
      {calls : List (Backend.Op × World σ)} {a : α}
      (h : Makes storage (next (World.handler storage op w).1) calls a) :
      Makes storage (.call op next) ((op, w) :: calls) a

/-- A chain makes the calls of its first part, and then those of the rest. -/
theorem Makes.of_bind {p : Program Backend α} {f : α → Program Backend β} {b : β}
    (h : (p.bind f).Makes storage calls b) : ∃ a before after, calls = before ++ after ∧
      p.Makes storage before a ∧ (f a).Makes storage after b := by
  generalize hq : p.bind f = q at h
  induction h generalizing p with
  | @done b =>
      cases p with
      | done a =>
          change f a = _ at hq
          exact ⟨a, [], [], rfl, .done, hq ▸ .done⟩
      | call op next => cases hq
  | @call op next w calls b h ih =>
      cases p with
      | done a =>
          change f a = _ at hq
          exact ⟨a, [], _, rfl, .done, hq ▸ .call h⟩
      | call op' next' =>
          cases hq
          obtain ⟨a, before, after, rfl, hp, hf⟩ := ih rfl
          exact ⟨a, _, after, rfl, .call hp, hf⟩

/-- A program runs as the clock goes on if it makes its calls while only the clock goes on. -/
theorem elapses_iff {p : Program Backend α} {w w' : World σ} {a : α} :
    p.Elapses storage w a w' ↔
      ∃ calls, p.Makes storage calls a ∧ w.Through storage World.Elapsed calls w' := by
  constructor
  · intro h
    induction h with
    | @done a w => exact ⟨[], .done, .last (.refl w)⟩
    | tick ht _ ih =>
        obtain ⟨calls, hmakes, hthrough⟩ := ih
        exact ⟨calls, hmakes, hthrough.of_elapsed (.tick ht)⟩
    | @call op next w w' a _ ih =>
        obtain ⟨calls, hmakes, hthrough⟩ := ih
        exact ⟨(op, w) :: calls, .call hmakes, .call (.refl w) hthrough⟩
  · rintro ⟨calls, hmakes, hthrough⟩
    induction hmakes generalizing w with
    | done =>
        cases hthrough with
        | last hend => exact Elapses.done.elapsed hend
    | call _ ih =>
        cases hthrough with
        | call hgap hrest =>
            refine .tick hgap.le ?_
            rw [← hgap.eq]
            exact .call (ih hrest)

/-- A program that runs alone makes its calls while nothing else happens. -/
theorem makes_of_run {p : Program Backend α} {w w' : World σ} {a : α}
    (h : p.run (World.handler storage) w = (a, w')) :
    ∃ calls, p.Makes storage calls a ∧ w.Through storage Eq calls w' := by
  induction p generalizing w with
  | done a' =>
      cases h
      exact ⟨[], .done, .last rfl⟩
  | call op next ih =>
      obtain ⟨calls, hmakes, hthrough⟩ := ih _ h
      exact ⟨_, .call hmakes, .call rfl hthrough⟩

/-- After its first reading of the clock a program may find it at a later time. -/
theorem makes_of_tick (next : Instant → Program Backend α) {w : World σ} {t : Instant}
    (ht : w.now ≤ t) : ∃ a calls w',
      (Program.call Backend.Op.now next).Makes storage ((.now, w) :: calls) a ∧
      w.Through storage World.Elapsed ((.now, w) :: calls) w' ∧ w'.now = t ∧
      ∀ c ∈ calls, c.2.now = t := by
  let later : World σ := { w with now := t }
  obtain ⟨calls, hmakes, hthrough⟩ := makes_of_run (show
    (next w.now).run (World.handler storage) later = (_, _) from rfl)
  obtain ⟨hcalls, hend⟩ := hthrough.keeps (fun _ _ h hnow => (h ▸ hnow : _ = t))
    (fun op w hnow => (World.now_handler op w).trans hnow) rfl
  refine ⟨_, calls, _, .call hmakes, ?_, hend, hcalls⟩
  exact .call (.refl w) ((hthrough.of_alone .refl (.refl _)).of_elapsed (.tick ht))

end Program

namespace Service

variable {p : Service α} {f : α → Service β} {a : α} {b : β}

/-- A chain that makes calls makes those of its first part, which stopped or went on to the rest. -/
theorem makes_bind {result : Except Stop β} (h : (p >>= f).run.Makes storage calls result) :
    ∃ first before after, calls = before ++ after ∧ p.run.Makes storage before first ∧
      ((∃ stop, first = .error stop ∧ result = .error stop ∧ after = []) ∨
        ∃ a, first = .ok a ∧ (f a).run.Makes storage after result) := by
  rw [run_bind] at h
  obtain ⟨first, before, after, hcalls, hp, hf⟩ := h.of_bind
  refine ⟨first, before, after, hcalls, hp, ?_⟩
  cases first with
  | error stop =>
      cases hf
      exact .inl ⟨stop, rfl, rfl, rfl⟩
  | ok a => exact .inr ⟨a, rfl, hf⟩

theorem makes_bind_ok (h : (p >>= f).run.Makes storage calls (.ok b)) :
    ∃ a before after, calls = before ++ after ∧ p.run.Makes storage before (.ok a) ∧
      (f a).run.Makes storage after (.ok b) := by
  obtain ⟨_, before, after, hcalls, hp, ⟨_, _, hstop, _⟩ | ⟨a, rfl, hf⟩⟩ := makes_bind h
  · cases hstop
  · exact ⟨a, before, after, hcalls, hp, hf⟩

theorem makes_withDeadline_ok {context : String}
    (h : (withDeadline context p).run.Makes storage calls (.ok a)) :
    p.run.Makes storage calls (.ok a) := by
  rw [run_withDeadline] at h
  obtain ⟨result, before, after, rfl, hp, hend⟩ := h.of_bind
  cases result with
  | error stop => cases hend
  | ok a =>
      cases hend
      rwa [List.append_nil]

theorem makes_now_ok {t : Instant} (h : now.run.Makes storage calls (.ok t)) :
    ∃ w, calls = [(.now, w)] ∧ t = w.now := by
  cases h with
  | @call _ _ w _ _ h =>
      cases h
      exact ⟨w, rfl, rfl⟩

/-- A store call that was answered was answered by what was stored then. -/
theorem makes_store_ok {call : StoreCall} {context : Option String} {reply : call.Reply}
    (h : (store call context).run.Makes storage calls (.ok reply)) :
    ∃ w, calls = [(.store call, w)] ∧ (storage.answer call w.stored).1 = .ok reply := by
  obtain ⟨answer, before, after, rfl, hasked, hend⟩ := makes_bind_ok h
  cases hasked with
  | @call _ _ w _ _ hasked =>
      cases hasked
      have hstored : (World.handler storage (.store call) w).1 =
          (storage.answer call w.stored).1 := rfl
      rw [hstored] at hend
      cases hanswer : (storage.answer call w.stored).1 with
      | error trouble =>
          rw [hanswer] at hend
          cases trouble <;> cases hend
      | ok reply' =>
          rw [hanswer] at hend
          cases hend
          exact ⟨w, rfl, hanswer⟩

theorem makes_require_ok {failure : Failure} {found : Option α}
    (h : (require failure found).run.Makes storage calls (.ok a)) : found = some a := by
  cases found with
  | none => cases h
  | some a' =>
      cases h
      rfl

theorem makes_inCalendar_ok {found : Option α}
    (h : (inCalendar found).run.Makes storage calls (.ok a)) : found = some a := by
  cases found with
  | none => cases h
  | some a' =>
      cases h
      rfl

/-! ### Services that are answered -/

/-- While only the clock goes on, and shows times of a certain kind whenever it is read, the service
ends with a value, and in a world, that are as they should be. -/
def Answers (storage : Storage σ) (w : World σ) (times : Instant → Prop)
    (good : α → World σ → Prop) (p : Service α) : Prop :=
  ∀ result calls w', p.run.Makes storage calls result →
    w.Through storage World.Elapsed calls w' → (∀ c ∈ calls, c.1 = .now → times c.2.now) →
    ∃ a, result = .ok a ∧ good a w'

namespace Answers

variable {w : World σ} {times : Instant → Prop} {good : α → World σ → Prop}

/-- What ends well whatever the clock shows is answered. -/
theorem of_delivers (h : Delivers storage w good p) : Answers storage w times good p :=
  fun result _ w' hmakes hthrough _ => h result w' (Program.elapses_iff.mpr ⟨_, hmakes, hthrough⟩)

theorem mono {good' : α → World σ → Prop} (h : Answers storage w times good p)
    (hgood : ∀ a w', good a w' → good' a w') : Answers storage w times good' p := by
  intro result calls w' hmakes hthrough hreadings
  obtain ⟨a, hok, hga⟩ := h result calls w' hmakes hthrough hreadings
  exact ⟨a, hok, hgood a w' hga⟩

theorem bind {good' : β → World σ → Prop} (hp : Answers storage w times good p)
    (hf : ∀ a w₁, good a w₁ → Answers storage w₁ times good' (f a)) :
    Answers storage w times good' (p >>= f) := by
  intro result calls w' hmakes hthrough hreadings
  obtain ⟨first, before, after, rfl, hfirst, hrest⟩ := makes_bind hmakes
  obtain ⟨w₁, hbefore, hafter⟩ := hthrough.of_append World.Elapsed.refl
  obtain ⟨a, rfl, hgood⟩ := hp first before w₁ hfirst hbefore
    fun c hc => hreadings c (List.mem_append_left _ hc)
  rcases hrest with ⟨_, hstop, _⟩ | ⟨_, hok, hrest⟩
  · cases hstop
  · cases hok
    exact hf a w₁ hgood result after w' hrest hafter
      fun c hc => hreadings c (List.mem_append_right _ hc)

theorem withDeadline {context : String} (h : Answers storage w times good p) :
    Answers storage w times good (withDeadline context p) := by
  intro result calls w' hmakes hthrough hreadings
  rw [run_withDeadline] at hmakes
  obtain ⟨first, before, after, rfl, hfirst, hend⟩ := hmakes.of_bind
  cases hend
  rw [List.append_nil] at hthrough hreadings
  obtain ⟨a, rfl, hgood⟩ := h first before w' hfirst hthrough hreadings
  exact ⟨a, rfl, hgood⟩

theorem now : Answers storage w times (fun t w' => times t ∧ w.Elapsed w') now := by
  intro result calls w' hmakes hthrough hreadings
  have hrun := Program.elapses_iff.mpr ⟨_, hmakes, hthrough⟩
  obtain ⟨t, rfl, _, _, helapsed⟩ := Delivers.now result w' hrun
  obtain ⟨w₀, rfl, rfl⟩ := makes_now_ok hmakes
  exact ⟨w₀.now, rfl, hreadings _ (List.mem_singleton_self _) rfl, helapsed⟩

/-- What is reckoned from a reading of the clock, if the calendar holds it at such times. -/
theorem dated {f : Instant → Option α} (h : ∀ t, times t → ∃ a, f t = some a) :
    Answers storage w times (fun a w' => w.Elapsed w' ∧ ∃ t, times t ∧ f t = some a)
      (Service.now >>= fun t => inCalendar (f t)) := by
  refine now.bind fun t w₁ ⟨ht, hbefore⟩ => ?_
  obtain ⟨a, ha⟩ := h t ht
  rw [ha]
  exact of_delivers (Delivers.pure fun w' hend => ⟨hbefore.trans hend, t, ht, ha⟩)

end Answers

end Service

end Gatehouse
