import Mathlib.Data.List.Basic
import OtelMetric.GoTime

/-!
The command-line client the Thrift compiler generates for the Jaeger `Collector` service
(`collector-remote.go`): its `main` from `flag.Parse()` on, as the effects it has, in
order, and how the process ends. The libraries it calls (`net/url`, `net`, the Thrift
transports and the generated client) are parameters.
-/

namespace OtelMetric.CollectorRemote

/-- How the process stops before `main` returns: `os.Exit(code)`, which runs no deferred
call, or a run-time panic, here a nil pointer dereference. -/
inductive Halt
  | exit (code : Int)
  | panic
deriving DecidableEq

inductive Protocol
  | compact
  | simpleJSON
  | json
  | binary
deriving DecidableEq

/-- What `main` does that another process can observe: its writes to standard error and
output, `flag.PrintDefaults()`, `trans.Open()`, `trans.Close()`, and
`client.SubmitBatches(ctx, batches)` with the protocol over the transport. -/
inductive Effect (T B : Type)
  | stderr (text : String)
  | stdout (text : String)
  | printDefaults
  | openTransport (transport : T)
  | closeTransport (transport : T)
  | submitBatches (protocol : Protocol) (transport : T) (batches : B)
deriving DecidableEq

/-- `main` so far: its effects in order, and the value it goes on with, or how the process
stopped. -/
structure Run (T B α : Type) where
  effects : List (Effect T B)
  result : Except Halt α

section Run

variable {T B α β : Type}

def Run.bind (x : Run T B α) (f : α → Run T B β) : Run T B β :=
  match x.result with
  | .ok a => ⟨x.effects ++ (f a).effects, (f a).result⟩
  | .error h => ⟨x.effects, .error h⟩

instance : Monad (Run T B) where
  pure a := ⟨[], .ok a⟩
  bind := Run.bind

def emit (effect : Effect T B) : Run T B Unit := ⟨[effect], .ok ()⟩

def halt (h : Halt) : Run T B α := ⟨[], .error h⟩

/-- What `fmt.Fprintln` writes of its operands: them with a space between each two, then
a newline. -/
def println (operands : List String) : String := " ".intercalate operands ++ "\n"

def eprintln (operands : List String) : Run T B Unit := emit (.stderr (println operands))

@[simp] theorem pure_eq (a : α) : (pure a : Run T B α) = ⟨[], .ok a⟩ := rfl

@[simp] theorem emit_eq (effect : Effect T B) : emit effect = ⟨[effect], .ok ()⟩ := rfl

@[simp] theorem eprintln_eq (operands : List String) :
    (eprintln operands : Run T B Unit) = ⟨[.stderr (println operands)], .ok ()⟩ := rfl

@[simp] theorem halt_eq (h : Halt) : (halt h : Run T B α) = ⟨[], .error h⟩ := rfl

@[simp] theorem ok_bind (effects : List (Effect T B)) (a : α) (f : α → Run T B β) :
    (⟨effects, .ok a⟩ : Run T B α) >>= f = ⟨effects ++ (f a).effects, (f a).result⟩ := rfl

@[simp] theorem error_bind (effects : List (Effect T B)) (h : Halt) (f : α → Run T B β) :
    (⟨effects, .error h⟩ : Run T B α) >>= f = ⟨effects, .error h⟩ := rfl

/-- `defer trans.Close()` (line 95): the close runs when the rest of `main` returns or
panics, not on `os.Exit`. -/
def deferClose (transport : T) (rest : Run T B Unit) : Run T B Unit :=
  match rest.result with
  | .error (.exit _) => rest
  | _ => ⟨rest.effects ++ [.closeTransport transport], rest.result⟩

@[simp] theorem deferClose_ok (transport : T) (effects : List (Effect T B)) :
    deferClose transport ⟨effects, .ok ()⟩ = ⟨effects ++ [.closeTransport transport], .ok ()⟩ := rfl

@[simp] theorem deferClose_exit (transport : T) (effects : List (Effect T B)) (code : Int) :
    deferClose transport ⟨effects, .error (.exit code)⟩ = ⟨effects, .error (.exit code)⟩ := rfl

end Run

/-- `main`'s variables as `flag.Parse()` leaves them, with each flag's declared default,
and the arguments after the flags (`flag.Args()`). -/
structure Flags where
  host : String := "localhost"
  port : Int := 9090
  protocol : String := "binary"
  urlString : String := ""
  framed : Bool := false
  useHTTP : Bool := false
  args : List String := []

/-- What `main` reads of a parsed `*url.URL`: `Host`, `Scheme` and `String()`. -/
structure URL where
  host : String
  scheme : String
  string : String

/-- The library calls of `main`, with `E` their errors, `T` the transports and `B` the
batches of spans: `url.Parse`, `net.SplitHostPort`, `net.JoinHostPort`,
`thrift.NewTHttpClient`, `thrift.NewTSocket`, `thrift.NewTFramedTransport`, the error
`trans.Open()` returns, the argument of `submitBatches` read back (`WriteString` into a
memory buffer, then `ReadField1` with the simple JSON protocol), what `fmt.Print` writes of
the results of `client.SubmitBatches`, and `err.Error()`. -/
structure Lib (E T B : Type) where
  parse : String → Except E URL
  splitHostPort : String → Except E (String × String)
  joinHostPort : String → String → String
  newTHttpClient : String → Except E T
  newTSocket : String → Except E T
  newTFramedTransport : T → T
  openError : T → Option E
  readBatches : String → Except E B
  submitBatches : Protocol → T → B → String
  error : E → String

section Main

variable {E T B α : Type} (lib : Lib E T B) (arg0 : String)

/-- `Usage`: the usage text on standard error, then `os.Exit(0)`; `arg0` is `os.Args[0]`. -/
def usage : Run T B α := do
  eprintln ["Usage of ", arg0, " [-h host:port] [-u url] [-f[ramed]] function [arg1 [arg2...]]:"]
  emit .printDefaults
  eprintln ["\nFunctions:"]
  eprintln ["   submitBatches( batches)"]
  eprintln []
  halt (.exit 0)

def usageText : List (Effect T B) := (usage arg0 : Run T B Unit).effects

@[simp] theorem usage_eq : (usage arg0 : Run T B α) = ⟨usageText arg0, .error (.exit 0)⟩ := rfl

/-- Lines 52-67: the `-u` and `-http` flags, and `host`, `useHTTP` and `parsedURL` after
them. `Usage` exits, so the dereference of a nil `parsedURL` after it is never reached. -/
def resolveURL (flags : Flags) : Run T B (String × Bool × Option URL) :=
  if 0 < flags.urlString.length then
    match lib.parse flags.urlString with
    | .error err => do
        eprintln ["Error parsing URL: ", lib.error err]
        usage arg0
    | .ok parsedURL =>
        pure (parsedURL.host,
          decide (parsedURL.scheme.length ≤ 0) || parsedURL.scheme == "http", some parsedURL)
  else if flags.useHTTP then
    match lib.parse ("http://" ++ flags.host ++ ":" ++ toString flags.port) with
    | .error err => do
        eprintln ["Error parsing URL: ", lib.error err]
        usage arg0
    | .ok _ => pure (flags.host, flags.useHTTP, none)
  else pure (flags.host, flags.useHTTP, none)

/-- Lines 74-81: `host` and `portStr` for the socket: `-h` split at its port when it has a
colon, else `-h` with `-p`. -/
def hostPort (flags : Flags) (host : String) : Run T B (String × String) :=
  if host.contains ':' then
    match lib.splitHostPort host with
    | .error err => do
        eprintln ["error with host:", lib.error err]
        halt (.exit 1)
    | .ok hostPort => pure hostPort
  else pure (host, toString flags.port)

/-- Lines 71-94: the transport, over HTTP or a socket, and `host` after it. The check
`err != nil` after both branches can only fail in the HTTP one, where it stands here. -/
def newTransport (flags : Flags) (host : String) (useHTTP : Bool) (parsedURL : Option URL) :
    Run T B (String × T) :=
  if useHTTP then
    match parsedURL with
    | none => halt .panic
    | some parsedURL =>
        match lib.newTHttpClient parsedURL.string with
        | .error err => do
            eprintln ["Error creating transport", lib.error err]
            halt (.exit 1)
        | .ok transport => pure (host, transport)
  else do
    let (host, portStr) ← hostPort lib flags host
    match lib.newTSocket (lib.joinHostPort host portStr) with
    | .error err => do
        eprintln ["error resolving address:", lib.error err]
        halt (.exit 1)
    | .ok transport =>
        pure (host, if flags.framed then lib.newTFramedTransport transport else transport)

/-- Lines 97-114: the protocol factory `-P` names. `Usage` exits, so the `os.Exit(1)` after
it is never reached. -/
def protocolFactory (protocol : String) : Run T B Protocol :=
  match protocol with
  | "compact" => pure .compact
  | "simplejson" => pure .simpleJSON
  | "json" => pure .json
  | "binary" | "" => pure .binary
  | _ => do
      eprintln ["Invalid protocol specified: ", protocol]
      usage arg0
      halt (.exit 1)

/-- Lines 118-121: `trans.Open()`. -/
def openTransport (flags : Flags) (host : String) (transport : T) : Run T B Unit := do
  emit (.openTransport transport)
  match lib.openError transport with
  | some err => do
      eprintln ["Error opening socket to ", host, ":", toString flags.port, " ", lib.error err]
      halt (.exit 1)
  | none => pure ()

/-- Lines 123-155: the function the first argument names (`flag.Arg(i)` is `""` past the
last argument). -/
def dispatch (protocol : Protocol) (transport : T) (args : List String) : Run T B Unit :=
  match args.getD 0 "" with
  | "submitBatches" => do
      if (args.length : Int) - 1 ≠ 1 then
        eprintln ["SubmitBatches requires 1 args"]
        usage arg0
      match lib.readBatches (args.getD 1 "") with
      | .error _ => usage arg0
      | .ok batches => do
          emit (.submitBatches protocol transport batches)
          emit (.stdout (lib.submitBatches protocol transport batches))
          emit (.stdout "\n")
  | "" => usage arg0
  | cmd => eprintln ["Invalid function ", cmd]

/-- `main`, from `flag.Parse()` on. -/
def main (flags : Flags) : Run T B Unit := do
  let (host, useHTTP, parsedURL) ← resolveURL lib arg0 flags
  let (host, transport) ← newTransport lib flags host useHTTP parsedURL
  deferClose transport do
    let protocol ← protocolFactory arg0 flags.protocol
    openTransport lib flags host transport
    dispatch lib arg0 protocol transport flags.args

theorem usageText_eq : (usageText arg0 : List (Effect T B)) =
    [.stderr (println ["Usage of ", arg0,
        " [-h host:port] [-u url] [-f[ramed]] function [arg1 [arg2...]]:"]),
      .printDefaults, .stderr (println ["\nFunctions:"]),
      .stderr (println ["   submitBatches( batches)"]), .stderr (println [])] := rfl

theorem resolveURL_cases (flags : Flags) :
    (∃ host useHTTP parsedURL,
        resolveURL lib arg0 flags = (pure (host, useHTTP, parsedURL) : Run T B _) ∧
          (parsedURL = none → flags.urlString = "" ∧ useHTTP = flags.useHTTP)) ∨
      ∃ line, (resolveURL lib arg0 flags : Run T B _) =
        ⟨.stderr line :: usageText arg0, .error (.exit 0)⟩ := by
  unfold resolveURL
  split_ifs with hu
  · cases lib.parse flags.urlString with
    | error err => exact .inr ⟨_, rfl⟩
    | ok parsedURL => exact .inl ⟨_, _, _, rfl, nofun⟩
  all_goals have hs := of_not_not (mt GoTime.length_pos_iff.mpr hu)
  · cases lib.parse _ with
    | error err => exact .inr ⟨_, rfl⟩
    | ok _ => exact .inl ⟨_, _, _, rfl, fun _ => ⟨hs, rfl⟩⟩
  · exact .inl ⟨_, _, _, rfl, fun _ => ⟨hs, rfl⟩⟩

theorem hostPort_cases (flags : Flags) (host : String) :
    (∃ v, hostPort lib flags host = (pure v : Run T B _)) ∨
      ∃ operands err, (hostPort lib flags host : Run T B _) =
        ⟨[.stderr (println (operands ++ [lib.error err]))], .error (.exit 1)⟩ := by
  unfold hostPort
  split
  · split
    · exact .inr ⟨["error with host:"], _, rfl⟩
    · exact .inl ⟨_, rfl⟩
  · exact .inl ⟨_, rfl⟩

theorem newTransport_cases (flags : Flags) (host : String) (useHTTP : Bool)
    (parsedURL : Option URL) :
    (∃ v, newTransport lib flags host useHTTP parsedURL = pure v) ∨
      (useHTTP = true ∧ parsedURL = none ∧
        newTransport lib flags host useHTTP parsedURL = halt .panic) ∨
      ∃ operands err, newTransport lib flags host useHTTP parsedURL =
        ⟨[.stderr (println (operands ++ [lib.error err]))], .error (.exit 1)⟩ := by
  unfold newTransport
  by_cases hu : useHTTP = true
  · rw [if_pos hu]
    split
    · exact .inr (.inl ⟨hu, rfl, rfl⟩)
    · split
      · exact .inr (.inr ⟨["Error creating transport"], _, rfl⟩)
      · exact .inl ⟨_, rfl⟩
  · rw [if_neg hu]
    rcases hostPort_cases lib flags host with ⟨⟨host, portStr⟩, hp⟩ | ⟨operands, err, hp⟩
    · simp only [hp, pure_eq, ok_bind]
      cases lib.newTSocket (lib.joinHostPort host portStr) with
      | error err => exact .inr (.inr ⟨["error resolving address:"], err, rfl⟩)
      | ok transport => exact .inl ⟨_, rfl⟩
    · exact .inr (.inr ⟨operands, err, by rw [hp]; rfl⟩)

theorem protocolFactory_cases (protocol : String) :
    (∃ p, protocolFactory arg0 protocol = (pure p : Run T B Protocol)) ∨
      ∃ line, (protocolFactory arg0 protocol : Run T B Protocol) =
        ⟨.stderr line :: usageText arg0, .error (.exit 0)⟩ := by
  unfold protocolFactory
  split
  all_goals first | exact .inl ⟨_, rfl⟩ | exact .inr ⟨_, rfl⟩

theorem openTransport_cases (flags : Flags) (host : String) (transport : T) :
    openTransport (B := B) lib flags host transport = ⟨[.openTransport transport], .ok ()⟩ ∨
      ∃ operands err, openTransport (B := B) lib flags host transport =
        ⟨[.openTransport transport, .stderr (println (operands ++ [lib.error err]))],
          .error (.exit 1)⟩ := by
  unfold openTransport
  cases lib.openError transport with
  | none => exact .inl rfl
  | some err =>
      exact .inr ⟨["Error opening socket to ", host, ":", toString flags.port, " "], err, rfl⟩

theorem dispatch_cases (protocol : Protocol) (transport : T) (args : List String) :
    (∃ arg batches, args = ["submitBatches", arg] ∧ lib.readBatches arg = .ok batches ∧
        dispatch lib arg0 protocol transport args =
          ⟨[.submitBatches protocol transport batches,
            .stdout (lib.submitBatches protocol transport batches), .stdout "\n"], .ok ()⟩) ∨
      (∃ cmd, dispatch lib arg0 protocol transport args =
        ⟨[.stderr (println ["Invalid function ", cmd])], .ok ()⟩) ∨
      ∃ lines : List String, dispatch lib arg0 protocol transport args =
        ⟨lines.map .stderr ++ usageText arg0, .error (.exit 0)⟩ := by
  unfold dispatch
  split
  next hc =>
    split_ifs with hn
    · exact .inr (.inr ⟨[println ["SubmitBatches requires 1 args"]], rfl⟩)
    · obtain ⟨cmd, arg, rfl⟩ := List.length_eq_two.mp (by omega : args.length = 2)
      obtain rfl : cmd = "submitBatches" := hc
      cases hb : lib.readBatches arg with
      | error _ => exact .inr (.inr ⟨[], by simp [hb]⟩)
      | ok batches => exact .inl ⟨arg, batches, rfl, hb, by simp [hb]⟩
  · exact .inr (.inr ⟨[], rfl⟩)
  · exact .inr (.inl ⟨_, rfl⟩)

theorem main_cases (flags : Flags) :
    (∃ line, main lib arg0 flags = ⟨.stderr line :: usageText arg0, .error (.exit 0)⟩) ∨
      (flags.useHTTP = true ∧ flags.urlString = "" ∧ main lib arg0 flags = halt .panic) ∨
      (∃ pre operands err, (pre = [] ∨ ∃ transport, pre = [.openTransport transport]) ∧
        main lib arg0 flags =
          ⟨pre ++ [.stderr (println (operands ++ [lib.error err]))], .error (.exit 1)⟩) ∨
      ∃ transport protocol,
        protocolFactory arg0 flags.protocol = (pure protocol : Run T B Protocol) ∧
        main lib arg0 flags = deferClose transport
          ⟨.openTransport transport :: (dispatch lib arg0 protocol transport flags.args).effects,
            (dispatch lib arg0 protocol transport flags.args).result⟩ := by
  rcases resolveURL_cases lib arg0 flags with ⟨host, useHTTP, parsedURL, hr, hn⟩ | ⟨line, hr⟩
  · rcases newTransport_cases lib flags host useHTTP parsedURL with
      ⟨⟨host, transport⟩, ht⟩ | ⟨hu, rfl, ht⟩ | ⟨operands, err, ht⟩
    · rcases protocolFactory_cases (T := T) (B := B) arg0 flags.protocol with
        ⟨protocol, hp⟩ | ⟨line, hp⟩
      · rcases openTransport_cases (B := B) lib flags host transport with
          ho | ⟨operands, err, ho⟩
        · exact .inr (.inr (.inr ⟨transport, protocol, hp, by simp [main, hr, ht, hp, ho]⟩))
        · exact .inr (.inr (.inl ⟨[.openTransport transport], operands, err, .inr ⟨_, rfl⟩,
            by simp [main, hr, ht, hp, ho]⟩))
      · exact .inl ⟨line, by simp [main, hr, ht, hp]⟩
    · obtain ⟨hs, rfl⟩ := hn rfl
      exact .inr (.inl ⟨hu, hs, by simp [main, hr, ht]⟩)
    · exact .inr (.inr (.inl ⟨[], operands, err, .inl rfl, by simp [main, hr, ht]⟩))
  · exact .inl ⟨line, by simp [main, hr]⟩

theorem main_of_parse_error {flags : Flags} {url : String} {err : E}
    (he : lib.parse url = .error err)
    (hu : url = flags.urlString ∧ flags.urlString ≠ "" ∨
      url = "http://" ++ flags.host ++ ":" ++ toString flags.port ∧ flags.urlString = "" ∧
        flags.useHTTP = true) :
    main lib arg0 flags =
      ⟨.stderr (println ["Error parsing URL: ", lib.error err]) :: usageText arg0,
        .error (.exit 0)⟩ := by
  rcases hu with ⟨rfl, hu⟩ | ⟨rfl, hu, hh⟩
  · simp [main, resolveURL, GoTime.length_pos_iff.mpr hu, he]
  · simp [main, resolveURL, hu, hh, he]

theorem main_of_transport {flags : Flags} {host host' : String} {useHTTP : Bool}
    {parsedURL : Option URL} {transport : T}
    (hr : resolveURL lib arg0 flags = (pure (host, useHTTP, parsedURL) : Run T B _))
    (ht : newTransport lib flags host useHTTP parsedURL = pure (host', transport)) :
    main lib arg0 flags = deferClose transport (do
      let protocol ← protocolFactory arg0 flags.protocol
      openTransport lib flags host' transport
      dispatch lib arg0 protocol transport flags.args) := by
  simp only [main, hr, ht, pure_eq, ok_bind, List.nil_append]

theorem protocolFactory_of_not_mem {protocol : String}
    (h : protocol ∉ ["compact", "simplejson", "json", "binary", ""]) :
    (protocolFactory arg0 protocol : Run T B Protocol) =
      ⟨.stderr (println ["Invalid protocol specified: ", protocol]) :: usageText arg0,
        .error (.exit 0)⟩ := by
  unfold protocolFactory
  split <;> simp_all

theorem protocolFactory_of_mem {protocol : String}
    (h : protocol ∈ ["compact", "simplejson", "json", "binary", ""]) :
    ∃ p, (protocolFactory arg0 protocol : Run T B Protocol) = pure p := by
  simp only [List.mem_cons, List.mem_singleton, List.not_mem_nil, or_false] at h
  rcases h with rfl | rfl | rfl | rfl | rfl <;> exact ⟨_, rfl⟩

theorem dispatch_of_usage (protocol : Protocol) (transport : T) (args : List String) :
    (args.getD 0 "" = "" →
      dispatch lib arg0 protocol transport args = ⟨usageText arg0, .error (.exit 0)⟩) ∧
    (args.getD 0 "" = "submitBatches" → args.length ≠ 2 →
      dispatch lib arg0 protocol transport args =
        ⟨.stderr (println ["SubmitBatches requires 1 args"]) :: usageText arg0,
          .error (.exit 0)⟩) ∧
    ∀ arg err, args = ["submitBatches", arg] → lib.readBatches arg = .error err →
      dispatch lib arg0 protocol transport args = ⟨usageText arg0, .error (.exit 0)⟩ := by
  refine ⟨fun h => by simp only [dispatch, h, usage_eq], fun h hn => ?_,
    fun arg err h hb => by simp [dispatch, h, hb]⟩
  have hn : (args.length : Int) - 1 ≠ 1 := by omega
  simp only [dispatch, h, if_pos hn]
  simp

/-- Every run of `main` ends in one of four ways: it returns, after opening the transport,
and closes it last; it exits with status 0 right after the usage text; it exits with status
1 right after a line that ends with the error a library call returned; or it panics, at
once, under `-http` without `-u`. A URL that does not parse, an unknown `-P`, no function,
`submitBatches` with another count of arguments than one, and an argument that does not
decode each end in `Usage` and status 0, the transport neither opened (for the first two)
nor closed. -/
theorem main_ends (flags : Flags) :
    (((main lib arg0 flags).result = .ok () ∧ ∃ transport mid,
        (main lib arg0 flags).effects =
          .openTransport transport :: mid ++ [.closeTransport transport]) ∨
      ((main lib arg0 flags).result = .error (.exit 0) ∧
        ∃ pre, (main lib arg0 flags).effects = pre ++ usageText arg0) ∨
      ((main lib arg0 flags).result = .error (.exit 1) ∧ ∃ pre operands err,
        (main lib arg0 flags).effects = pre ++ [.stderr (println (operands ++ [lib.error err]))]) ∨
      ((main lib arg0 flags).result = .error .panic ∧ (main lib arg0 flags).effects = [] ∧
        flags.useHTTP = true ∧ flags.urlString = "")) ∧
    (∀ url err, lib.parse url = .error err →
      (url = flags.urlString ∧ flags.urlString ≠ "" ∨
        url = "http://" ++ flags.host ++ ":" ++ toString flags.port ∧ flags.urlString = "" ∧
          flags.useHTTP = true) →
      main lib arg0 flags =
        ⟨.stderr (println ["Error parsing URL: ", lib.error err]) :: usageText arg0,
          .error (.exit 0)⟩) ∧
    ∀ host useHTTP parsedURL host' transport,
      resolveURL lib arg0 flags = (pure (host, useHTTP, parsedURL) : Run T B _) →
      newTransport lib flags host useHTTP parsedURL = pure (host', transport) →
      (flags.protocol ∉ ["compact", "simplejson", "json", "binary", ""] →
        main lib arg0 flags =
          ⟨.stderr (println ["Invalid protocol specified: ", flags.protocol]) :: usageText arg0,
            .error (.exit 0)⟩) ∧
      (flags.protocol ∈ ["compact", "simplejson", "json", "binary", ""] →
        lib.openError transport = none →
        (flags.args.getD 0 "" = "" →
          main lib arg0 flags = ⟨.openTransport transport :: usageText arg0, .error (.exit 0)⟩) ∧
        (flags.args.getD 0 "" = "submitBatches" → flags.args.length ≠ 2 →
          main lib arg0 flags =
            ⟨.openTransport transport :: .stderr (println ["SubmitBatches requires 1 args"]) ::
              usageText arg0, .error (.exit 0)⟩) ∧
        ∀ arg err, flags.args = ["submitBatches", arg] → lib.readBatches arg = .error err →
          main lib arg0 flags =
            ⟨.openTransport transport :: usageText arg0, .error (.exit 0)⟩) := by
  refine ⟨?_, fun url err he hu => main_of_parse_error lib arg0 he hu,
    fun host useHTTP parsedURL host' transport hr ht => ⟨fun hp => ?_, fun hp ho => ?_⟩⟩
  · rcases main_cases lib arg0 flags with
      ⟨line, h⟩ | ⟨hu, hs, h⟩ | ⟨pre, operands, err, -, h⟩ | ⟨transport, protocol, -, h⟩ <;>
      rw [h]
    · exact .inr (.inl ⟨rfl, [.stderr line], rfl⟩)
    · exact .inr (.inr (.inr ⟨rfl, rfl, hu, hs⟩))
    · exact .inr (.inr (.inl ⟨rfl, pre, operands, err, rfl⟩))
    · rcases dispatch_cases lib arg0 protocol transport flags.args with
        ⟨_, _, -, -, hd⟩ | ⟨_, hd⟩ | ⟨lines, hd⟩ <;> rw [hd]
      · exact .inl ⟨rfl, transport, _, rfl⟩
      · exact .inl ⟨rfl, transport, _, rfl⟩
      · exact .inr (.inl ⟨rfl, .openTransport transport :: lines.map .stderr, rfl⟩)
  · rw [main_of_transport lib arg0 hr ht, protocolFactory_of_not_mem arg0 hp]
    rfl
  · obtain ⟨protocol, hf⟩ := protocolFactory_of_mem (T := T) (B := B) arg0 hp
    obtain ⟨hnone, hcount, hread⟩ := dispatch_of_usage lib arg0 protocol transport flags.args
    have hm := main_of_transport lib arg0 hr ht
    simp only [hf, openTransport, ho, pure_eq, ok_bind, emit_eq, List.nil_append] at hm
    refine ⟨fun h => ?_, fun h hn => ?_, fun arg err h hb => ?_⟩
    · rw [hm, hnone h]; rfl
    · rw [hm, hcount h hn]; rfl
    · rw [hm, hread arg err h hb]; rfl

private theorem submitBatches_not_mem_usageText {protocol : Protocol} {transport : T}
    {batches : B} : Effect.submitBatches protocol transport batches ∉ usageText arg0 := by
  simp [usageText_eq]

/-- `main` calls `SubmitBatches` only for `submitBatches` with one argument that decodes to
the batches, over the protocol `-P` names, once, right after opening the transport; it then
prints the reply and a newline, closes the transport and returns. -/
theorem main_submitBatches {flags : Flags} {protocol : Protocol} {transport : T} {batches : B}
    (h : .submitBatches protocol transport batches ∈ (main lib arg0 flags).effects) :
    (∃ arg, flags.args = ["submitBatches", arg] ∧ lib.readBatches arg = .ok batches) ∧
      protocolFactory arg0 flags.protocol = (pure protocol : Run T B Protocol) ∧
      main lib arg0 flags =
        ⟨[.openTransport transport, .submitBatches protocol transport batches,
          .stdout (lib.submitBatches protocol transport batches), .stdout "\n",
          .closeTransport transport], .ok ()⟩ := by
  rcases main_cases lib arg0 flags with
    ⟨line, hm⟩ | ⟨-, -, hm⟩ | ⟨pre, operands, err, hpre, hm⟩ | ⟨transport', protocol', hp, hm⟩ <;>
    rw [hm] at h ⊢
  · simp [submitBatches_not_mem_usageText] at h
  · simp at h
  · rcases hpre with rfl | ⟨_, rfl⟩ <;> simp at h
  · rcases dispatch_cases lib arg0 protocol' transport' flags.args with
      ⟨arg, batches', ha, hb, hd⟩ | ⟨cmd, hd⟩ | ⟨lines, hd⟩ <;> rw [hd] at h ⊢
    · simp at h
      obtain ⟨rfl, rfl, rfl⟩ := h
      exact ⟨⟨arg, ha, hb⟩, hp, rfl⟩
    · simp at h
    · simp [submitBatches_not_mem_usageText] at h

/-- A `-u` URL whose scheme is neither empty nor `http` (`https` among them) turns `-http`
off: `main` then dials a raw socket to the URL's host, as if run with `-h` set to that host
and neither `-u` nor `-http`. -/
theorem main_of_url_not_http {flags : Flags} {parsedURL : URL}
    (hu : flags.urlString ≠ "") (hp : lib.parse flags.urlString = .ok parsedURL)
    (hs : parsedURL.scheme ≠ "" ∧ parsedURL.scheme ≠ "http") :
    main lib arg0 flags =
      main lib arg0 { flags with host := parsedURL.host, urlString := "", useHTTP := false } := by
  have hh : (decide (parsedURL.scheme.length ≤ 0) || parsedURL.scheme == "http") = false := by
    simp only [Bool.or_eq_false_iff, decide_eq_false_iff_not, beq_eq_false_iff_ne, not_le]
    exact ⟨GoTime.length_pos_iff.mpr hs.1, hs.2⟩
  simp only [main, resolveURL, if_pos (GoTime.length_pos_iff.mpr hu), hp, hh]
  rfl

end Main

/-- A library under which every call succeeds: a URL parses as itself with the scheme
`http`, a transport is its address, and the argument of `submitBatches` decodes to itself. -/
def echoLib : Lib String String String where
  parse url := .ok ⟨url, "http", url⟩
  splitHostPort host := .ok (host, "")
  joinHostPort host port := host ++ ":" ++ port
  newTHttpClient url := .ok url
  newTSocket address := .ok address
  newTFramedTransport transport := transport
  openError _ := none
  readBatches arg := .ok arg
  submitBatches _ _ batches := batches
  error err := err

theorem main_submitBatches_over_http :
    let flags : Flags := { urlString := "http://jaeger:14268", args := ["submitBatches", "[]"] }
    .submitBatches .binary "http://jaeger:14268" "[]" ∈
        (main echoLib "collector-remote" flags).effects ∧
      (∃ arg, flags.args = ["submitBatches", arg] ∧ echoLib.readBatches arg = .ok "[]") ∧
      protocolFactory "collector-remote" flags.protocol =
        (pure .binary : Run String String Protocol) ∧
      main echoLib "collector-remote" flags =
        ⟨[.openTransport "http://jaeger:14268", .submitBatches .binary "http://jaeger:14268" "[]",
          .stdout "[]", .stdout "\n", .closeTransport "http://jaeger:14268"], .ok ()⟩ := by
  intro flags
  have h : .submitBatches .binary "http://jaeger:14268" "[]" ∈
      (main echoLib "collector-remote" flags).effects := by decide
  exact ⟨h, main_submitBatches echoLib "collector-remote" h⟩

theorem main_of_https_url :
    let lib : Lib String String String :=
      { echoLib with parse := fun url => .ok ⟨"jaeger:14268", "https", url⟩ }
    let flags : Flags := { urlString := "https://jaeger:14268", useHTTP := true }
    let parsedURL : URL := ⟨"jaeger:14268", "https", "https://jaeger:14268"⟩
    flags.urlString ≠ "" ∧ lib.parse flags.urlString = .ok parsedURL ∧
      (parsedURL.scheme ≠ "" ∧ parsedURL.scheme ≠ "http") ∧
      main lib "collector-remote" flags =
        main lib "collector-remote"
          { flags with host := parsedURL.host, urlString := "", useHTTP := false } := by
  intro lib flags parsedURL
  have hu : flags.urlString ≠ "" := by decide
  have hs : parsedURL.scheme ≠ "" ∧ parsedURL.scheme ≠ "http" := by decide
  exact ⟨hu, rfl, hs, main_of_url_not_http lib "collector-remote" hu rfl hs⟩

end OtelMetric.CollectorRemote
