import BondQuery.Command.Run
import BondQuery.Proofs.Outcome

/- Runs of a command on a screen. A step ends with an answer, a code or an error that nothing
   handles, and leaves a screen behind; a message adds its lines, unless its tags do not fit. -/
namespace BondQuery.Command
variable {α β : Type} {s later : Screen}

def Run.on (step : Run α) (s : Screen) : Except Stop α × Screen :=
  step.run.run s

namespace Run
variable {step : Run α} {next : α → Run β}

@[simp] theorem on_pure (a : α) : (pure a : Run α).on s = (.ok a, s) := rfl

@[simp] theorem on_throw (stop : Stop) : (throw stop : Run α).on s = (.error stop, s) := rfl

@[simp] theorem on_get : (get : Run Screen).on s = (.ok s, s) := rfl

theorem on_bind (step : Run α) (next : α → Run β) (s : Screen) :
    (step >>= next).on s = match step.on s with
      | (.ok a, later) => (next a).on later
      | (.error stop, later) => (.error stop, later) := by
  have chained : (step >>= next).on s = (step s >>= fun r : Except Stop α × Screen =>
    ExceptT.bindCont next r.1 r.2) := rfl
  have first : step.on s = step s := rfl
  rw [chained, first]
  obtain ⟨result, later⟩ := step s
  cases result <;> rfl

theorem on_bind_ok {a : α} (answered : step.on s = (.ok a, later)) :
    (step >>= next).on s = (next a).on later := by
  rw [on_bind, answered]

theorem on_bind_error {stop : Stop} (stopped : step.on s = (.error stop, later)) :
    (step >>= next).on s = (.error stop, later) := by
  rw [on_bind, stopped]

end Run

def Screen.noting (s : Screen) (chars : List Char) : Screen :=
  { s with messages := s.messages ++ chars }

def Screen.printing (s : Screen) (chars : List Char) : Screen :=
  { s with output := s.output ++ chars }

@[simp] theorem Screen.noting_columns (s : Screen) (chars : List Char) :
    (s.noting chars).columns = s.columns := rfl

@[simp] theorem Screen.noting_messages (s : Screen) (chars : List Char) :
    (s.noting chars).messages = s.messages ++ chars := rfl

@[simp] theorem Screen.noting_output (s : Screen) (chars : List Char) :
    (s.noting chars).output = s.output := rfl

@[simp] theorem Screen.printing_columns (s : Screen) (chars : List Char) :
    (s.printing chars).columns = s.columns := rfl

@[simp] theorem Screen.printing_messages (s : Screen) (chars : List Char) :
    (s.printing chars).messages = s.messages := rfl

@[simp] theorem Screen.printing_output (s : Screen) (chars : List Char) :
    (s.printing chars).output = s.output ++ chars := rfl

theorem Screen.noting_noting (s : Screen) (first second : List Char) :
    (s.noting first).noting second = s.noting (first ++ second) := by
  simp [noting]

theorem Screen.printing_printing (s : Screen) (first second : List Char) :
    (s.printing first).printing second = s.printing (first ++ second) := by
  simp [printing]

theorem on_forM_noting {step : α → Run Unit} {chars : α → List Char} {xs : List α}
    (each : ∀ x ∈ xs, ∀ t : Screen, t.columns = s.columns →
      (step x).on t = (.ok (), t.noting (chars x))) :
    (xs.forM step).on s = (.ok (), s.noting (xs.flatMap chars)) := by
  induction xs generalizing s with
  | nil => simp [Screen.noting]
  | cons x rest ih =>
    have first : (step x).on s = (.ok (), s.noting (chars x)) := each x (by simp) s rfl
    have chained : (x :: rest).forM step = (step x >>= fun _ => rest.forM step) := rfl
    rw [chained, Run.on_bind_ok first, ih, Screen.noting_noting, List.flatMap_cons]
    intro y member t same
    exact each y (List.mem_cons_of_mem _ member) t same

theorem on_forM_printing {step : α → Run Unit} {chars : α → List Char} {xs : List α}
    (each : ∀ x ∈ xs, ∀ t : Screen, (step x).on t = (.ok (), t.printing (chars x))) :
    (xs.forM step).on s = (.ok (), s.printing (xs.flatMap chars)) := by
  induction xs generalizing s with
  | nil => simp [Screen.printing]
  | cons x rest ih =>
    have first : (step x).on s = (.ok (), s.printing (chars x)) := each x (by simp) s
    have chained : (x :: rest).forM step = (step x >>= fun _ => rest.forM step) := rfl
    rw [chained, Run.on_bind_ok first, ih, Screen.printing_printing, List.flatMap_cons]
    intro y member t
    exact each y (List.mem_cons_of_mem _ member) t

def shown (columns : Nat) (message : String) : Except Error (List Char) :=
  (Console.render message).map fun text => (Console.wrap messageFlow columns text).flatMap line

theorem on_messageLines {message : String} {text : List Char}
    (rendered : Console.render message = .ok text) :
    (messageLines message).on s = (.ok (Console.wrap messageFlow s.columns text), s) := by
  unfold messageLines
  rw [rendered]
  rfl

theorem on_messageLines_error {message : String} {e : Error}
    (misfit : Console.render message = .error e) :
    (messageLines message).on s = (.error (.failure e), s) := by
  unfold messageLines
  rw [misfit]
  rfl

theorem on_note {message : String} {chars : List Char}
    (fits : shown s.columns message = .ok chars) :
    (note message).on s = (.ok (), s.noting chars) := by
  obtain ⟨text, rendered, rfl⟩ := map_eq_ok_iff.mp fits
  unfold note
  rw [Run.on_bind_ok (on_messageLines rendered)]
  exact on_forM_noting fun _ _ _ _ => rfl

theorem on_say {message : String} {chars : List Char}
    (fits : shown s.columns message = .ok chars) :
    (say message).on s = (.ok (), s.printing chars) := by
  obtain ⟨text, rendered, rfl⟩ := map_eq_ok_iff.mp fits
  unfold say
  rw [Run.on_bind_ok (on_messageLines rendered)]
  exact on_forM_printing fun _ _ _ => rfl

theorem on_note_error {message : String} {e : Error}
    (misfit : shown s.columns message = .error e) :
    (note message).on s = (.error (.failure e), s) := by
  unfold note
  rw [Run.on_bind_error (on_messageLines_error (map_eq_error_iff.mp misfit))]

theorem on_say_error {message : String} {e : Error}
    (misfit : shown s.columns message = .error e) :
    (say message).on s = (.error (.failure e), s) := by
  unfold say
  rw [Run.on_bind_error (on_messageLines_error (map_eq_error_iff.mp misfit))]

def complaint (message : String) : String :=
  styled "error" "Error:" ++ " " ++ message

theorem on_refuse {code : Nat} {message : String} {chars : List Char}
    (fits : shown s.columns (complaint message) = .ok chars) :
    (refuse code message : Run α).on s = (.error (.code code), s.noting chars) := by
  have complained : (complain message).on s = (.ok (), s.noting chars) := on_note fits
  unfold refuse
  rw [Run.on_bind_ok complained]
  rfl

theorem on_refuse_error {code : Nat} {message : String} {e : Error}
    (misfit : shown s.columns (complaint message) = .error e) :
    (refuse code message : Run α).on s = (.error (.failure e), s) := by
  have escaped : (complain message).on s = (.error (.failure e), s) := on_note_error misfit
  unfold refuse
  rw [Run.on_bind_error escaped]

def jsonText (columns : Nat) (compact : Bool) (json : Json) : List Char :=
  if compact then line json.chars
  else ((json.indentedChars 0).splitOn '\n').flatMap fun text => line (Text.crop columns text)

theorem on_printJson (compact : Bool) (json : Json) :
    (printJson compact json).on s = (.ok (), s.printing (jsonText s.columns compact json)) := by
  unfold printJson jsonText
  cases compact with
  | true => rfl
  | false =>
    simp only [Bool.false_eq_true, if_false]
    rw [Run.on_bind_ok Run.on_get]
    exact on_forM_printing fun _ _ _ => rfl

theorem on_orFail {r : Except Error α} {a : α} (answered : r = .ok a) :
    (orFail r).on s = (.ok a, s) := by
  rw [answered]
  rfl

theorem on_orFail_error {r : Except Error α} {e : Error} (failed : r = .error e) :
    (orFail r).on s = (.error (.failure e), s) := by
  rw [failed]
  rfl

end BondQuery.Command
