import TunnelCore.Service.Arguments
import TunnelCore.Library.Runs

namespace TunnelCore.Service

structure Launch where
  program : PermittedProcess := .invalid
  arguments : List String := []
  nativeArguments : String := ""
deriving DecidableEq

/-- What `QProcess` keeps: the next launch, and whether the last one still runs. -/
structure Process extends Launch where
  running : Bool := false
deriving DecidableEq

namespace Process

/-- `QProcess` refuses a new program and new arguments while the process runs. -/
def setProgram (p : Process) (program : PermittedProcess) : Process :=
  if p.running then p else { p with program := program }

def setArguments (p : Process) (arguments : List String) : Process :=
  if p.running then p else { p with arguments := arguments }

end Process

/-- `IpcServerProcess`, with the processes it has started. -/
structure Server where
  program : PermittedProcess := .invalid
  process : Process := {}
  launched : List Launch := []
deriving DecidableEq

/-- The remote calls; a start may fail to launch the process. The last event is the end of the process, on its own or
by `terminate`, `kill` or `close`. -/
inductive Call
  | setProgram (programId : Int)
  | setArguments (arguments : List String)
  | setNativeArguments (arguments : String)
  | start (launches : Bool)
  | finished

namespace Server

def start (s : Server) : Server :=
  { s with
    process := { s.process with running := true }
    launched := s.launched ++ [s.process.toLaunch] }

def step (windows : Bool) (s : Server) : Call → Server
  | .setProgram programId =>
    { s with
      program := .ofId programId
      process := (s.process.setProgram (.ofId programId)).setArguments [] }
  | .setArguments arguments => { s with process := s.process.setArguments (sanitizeArguments s.program arguments) }
  | .setNativeArguments arguments =>
    if windows then { s with process := { s.process with nativeArguments := arguments } } else s
  | .start launches => if s.process.running ∨ ¬s.process.program.hasPath ∨ ¬launches then s else s.start
  | .finished => { s with process := { s.process with running := false } }

def run (windows : Bool) (calls : List Call) : Server := calls.foldl (step windows) {}

end Server

/-- The arguments were sanitized for the program, and only Windows has native ones. -/
structure Launch.Prepared (windows : Bool) (l : Launch) : Prop where
  sanitized : ∃ args, l.arguments = sanitizeArguments l.program args
  native : windows = false → l.nativeArguments = ""

/-- Arguments are set under the program that `QProcess` holds. A program that was set while the process ran is not the
one it holds. -/
def InStep (s : Server) : Call → Prop
  | .setArguments _ => s.process.running = false → s.program = s.process.program
  | _ => True

instance (s : Server) : ∀ c, Decidable (InStep s c)
  | .setArguments _ => inferInstanceAs (Decidable (_ → _))
  | .setProgram _ | .setNativeArguments _ | .start _ | .finished => isTrue trivial

structure Orderly (windows : Bool) (s : Server) : Prop where
  process : s.process.Prepared windows
  launched : ∀ l ∈ s.launched, l.Prepared windows

theorem sanitizeArguments_nil (program : PermittedProcess) : sanitizeArguments program [] = [] := by
  cases program <;> rfl

section

variable {windows : Bool} {s : Server}

theorem prepared_setProgram {p : Process} (h : p.Prepared windows) (program : PermittedProcess) :
    ((p.setProgram program).setArguments []).Prepared windows := by
  cases hr : p.running with
  | true =>
    simp only [Process.setProgram, Process.setArguments, hr, if_true]
    exact h
  | false =>
    simp only [Process.setProgram, Process.setArguments, hr, Bool.false_eq_true, if_false]
    exact ⟨⟨[], (sanitizeArguments_nil _).symm⟩, h.native⟩

theorem prepared_setArguments {p : Process} (h : p.Prepared windows) {program : PermittedProcess}
    (hp : p.running = false → program = p.program) (arguments : List String) :
    (p.setArguments (sanitizeArguments program arguments)).Prepared windows := by
  rw [Process.setArguments]
  split
  · exact h
  next hr =>
    rw [hp (Bool.not_eq_true _ ▸ hr)]
    exact ⟨⟨arguments, rfl⟩, h.native⟩

theorem Orderly.start (h : Orderly windows s) : Orderly windows s.start := by
  refine ⟨h.process, ?_⟩
  intro l hl
  obtain hl | hl := List.mem_append.mp hl
  · exact h.launched l hl
  · rw [List.mem_singleton.mp hl]
    exact h.process

theorem Orderly.step (h : Orderly windows s) {c : Call} (hs : InStep s c) : Orderly windows (s.step windows c) := by
  cases c with
  | setProgram programId => exact ⟨prepared_setProgram h.process _, h.launched⟩
  | setArguments arguments => exact ⟨prepared_setArguments h.process hs arguments, h.launched⟩
  | setNativeArguments arguments =>
    rw [Server.step]
    split
    next hw => exact ⟨⟨h.process.sanitized, fun hn => absurd (hw.symm.trans hn) (by decide)⟩, h.launched⟩
    · exact h
  | start launches =>
    rw [Server.step]
    split
    · exact h
    · exact h.start
  | finished => exact ⟨h.process, h.launched⟩

end

theorem orderly_run {windows : Bool} {calls : List Call} (h : Along (Server.step windows) InStep {} calls) :
    Orderly windows (Server.run windows calls) :=
  h.foldl (fun _ _ hs hc => hs.step hc) ⟨⟨⟨[], rfl⟩, fun _ => rfl⟩, List.forall_mem_nil _⟩

namespace Launch

/-- `split` is how the runtime of the program cuts the native arguments, which Windows appends as they are. -/
def nativeTokens (split : String → List String) (l : Launch) : List String :=
  if l.nativeArguments = "" then [] else split l.nativeArguments

def commandLine (split : String → List String) (l : Launch) : List String := l.arguments ++ l.nativeTokens split

structure Safe (split : String → List String) (l : Launch) : Prop where
  conforms : conforms (namedArgs l.program) (positionalArgs l.program) (l.commandLine split) = true
  options : ∀ token ∈ l.commandLine split,
    beginsWithDash token = true → ((namedArgs l.program).lookup token).isSome = true

end Launch

theorem not_beginsWithDash_positional (program : PermittedProcess) :
    ∀ validator ∈ positionalArgs program, ∀ token, validator token = true → beginsWithDash token = false := by
  cases program with
  | openVPN => exact List.forall_mem_singleton.mpr fun _ => not_beginsWithDash_of_isPort
  | invalid | wireguard | tun2Socks | certUtil | unknown => exact List.forall_mem_nil _

theorem not_beginsWithDash_tun2Socks {key v : String} {validator : Validator}
    (hkey : (namedArgs .tun2Socks).lookup key = some (some validator)) (hv : validator v = true) :
    beginsWithDash v = false := by
  simp only [namedArgs, List.lookup_cons, List.lookup_nil] at hkey
  split at hkey
  · cases hkey
    exact not_beginsWithDash_of_startsWith (c := 't') rfl (by decide) hv
  · split at hkey
    · cases hkey
      exact not_beginsWithDash_of_startsWith (c := 's') rfl (by decide) hv
    · cases hkey

/-- As long as arguments are set under the program that `QProcess` holds, a command line of OpenVPN or tun2socks is
safe exactly if no accepted value of OpenVPN begins with a dash and the native arguments, on Windows, go on with what
is still allowed. -/
theorem launched_command_line_iff (windows : Bool) (split : String → List String) {calls : List Call}
    (h : Along (Server.step windows) InStep {} calls) {l : Launch} (hl : l ∈ (Server.run windows calls).launched)
    (hprogram : l.program = .openVPN ∨ l.program = .tun2Socks) :
    l.Safe split ↔
      (l.program = .openVPN → ∀ v ∈ optionValues (namedArgs l.program) l.arguments, beginsWithDash v = false) ∧
      (windows = true → conforms (namedArgs l.program)
        (remaining (namedArgs l.program) (positionalArgs l.program) l.arguments) (l.nativeTokens split) = true) := by
  obtain ⟨⟨args, hargs⟩, hnative⟩ := (orderly_run h).launched l hl
  have hsanitized : l.arguments = sanitize (namedArgs l.program) (positionalArgs l.program) args := by
    obtain hp | hp := hprogram
    all_goals
      rw [hargs, hp]
      rfl
  have hsafe : l.Safe split ↔
      conforms (namedArgs l.program) (positionalArgs l.program) (l.commandLine split) = true :=
    ⟨Launch.Safe.conforms, fun hc => ⟨hc, option_of_conforms (not_beginsWithDash_positional _) hc⟩⟩
  rw [hsafe, Launch.commandLine, hsanitized, conforms_sanitize_append, ← hsanitized]
  refine and_congr ⟨fun hv _ => hv, fun hv => ?_⟩ ⟨fun hc _ => hc, fun hc => ?_⟩
  · obtain hp | hp := hprogram
    · exact hv hp
    · intro v hmem
      rw [hsanitized, hp] at hmem
      obtain ⟨key, validator, hkey, hvalid⟩ := validated_of_sanitize _ _ _ v hmem
      exact not_beginsWithDash_tun2Socks hkey hvalid
  · cases windows with
    | true => exact hc rfl
    | false =>
      rw [Launch.nativeTokens, if_pos (hnative rfl)]
      exact conforms.eq_1 _ _

theorem launched_command_line_openVPN :
    (Launch.mk .openVPN ["--config", "/tmp/client.ovpn", "1194"] "").Safe fun text => [text] := by
  have hrun : Along (Server.step false) InStep {}
      [.setProgram 1, .setArguments ["--config", "/tmp/client.ovpn", "--up", "1194", "1195"], .start true] := by
    decide +kernel
  exact (launched_command_line_iff false (fun text => [text]) hrun (by decide +kernel) (.inl rfl)).mpr
    (by decide +kernel)

/-- An option as the value of another one, native arguments, and arguments that were sanitized for another program. -/
theorem nonconforming_command_lines :
    (Server.run false [.setProgram 1, .setArguments ["--config", "--script-security"], .start true]).launched =
        [⟨.openVPN, ["--config", "--script-security"], ""⟩] ∧
      (Server.run true [.setProgram 3, .setNativeArguments "-loglevel", .start true]).launched =
        [⟨.tun2Socks, [], "-loglevel"⟩] ∧
      (Server.run false [.setProgram 1, .start true, .setProgram 4, .finished, .setArguments ["--up", "/tmp/script"],
          .start true]).launched = [⟨.openVPN, [], ""⟩, ⟨.openVPN, ["--up", "/tmp/script"], ""⟩] ∧
      ∀ l ∈ [Launch.mk .openVPN ["--config", "--script-security"] "", ⟨.tun2Socks, [], "-loglevel"⟩,
        ⟨.openVPN, ["--up", "/tmp/script"], ""⟩], ¬l.Safe fun text => [text] := by
  have hnone : ∀ l ∈ [Launch.mk .openVPN ["--config", "--script-security"] "", ⟨.tun2Socks, [], "-loglevel"⟩,
      ⟨.openVPN, ["--up", "/tmp/script"], ""⟩],
      conforms (namedArgs l.program) (positionalArgs l.program) (l.commandLine fun text => [text]) = false := by
    decide +kernel
  refine ⟨by decide +kernel, by decide +kernel, by decide +kernel, fun l hl hsafe => ?_⟩
  exact Bool.false_ne_true ((hnone l hl).symm.trans hsafe.conforms)

end TunnelCore.Service
