import TunnelCore.Library.Json

namespace TunnelCore.Update

inductive Platform
  | androidPlay
  | androidApk
  | ios
  | macosStore
  | macos
  | windows
  | linux
deriving DecidableEq

namespace Platform

def isStoreUpdate : Platform → Bool
  | .androidPlay | .ios | .macosStore => true
  | _ => false

/-- `kInstallerRemoteFileNamePattern`, on the platforms that download an installer. -/
def installerName (version : String) : Platform → Option String
  | .windows => some s!"TunnelCoreVPN_{version}_windows_x64.exe"
  | .macos => some s!"TunnelCoreVPN_{version}_macos_x64.pkg"
  | .linux => some s!"TunnelCoreVPN_{version}_linux_x64.run"
  | _ => none

def downloads (platform : Platform) : Bool := (platform.installerName "").isSome

def storeHost : Platform → String
  | .androidPlay => "play.google.com"
  | _ => "apps.apple.com"

end Platform

structure Url where
  scheme : String
  host : String
  path : String
  query : String
  fragment : String

/-- A build of the application and the library functions it uses. -/
structure Build where
  platform : Platform
  appVersion : String
  iosStoreUrlFallback : String
  androidPackage : String
  url : String → Url
  urlText : String → String
  urlIsEmpty : String → Bool
  validVersion : String → Bool
  compareVersions : String → String → Int
  isSha256 : String → Bool
  toLower : String → String
  sha256 : List UInt8 → String

inductive UpdateState
  | idle
  | downloading
  | readyToInstall
  | downloadError
deriving DecidableEq

/-- A `QSaveFile`: it remembers a failed write, and `commit` then discards it. -/
structure SaveFile where
  content : List UInt8
  failed : Bool

/-- A reply of `downloadInstaller` that has not finished, with what its lambdas share. -/
structure Download where
  id : Nat
  url : String
  buffer : List UInt8 := []
  file : SaveFile := { content := [], failed := false }
  digest : List UInt8 := []
  bytesWritten : Int := 0

inductive Signal
  | updateFound
  | updateNotFound
  | updateCheckFailed
deriving DecidableEq

structure Launch where
  file : Option (List UInt8)
  expectedSize : Int
  expectedSha256 : String

/-- The members of `UpdateController`, its downloads, and the file at `kInstallerLocalPath` with
the contents committed to it so far. -/
structure State where
  version : String := ""
  releaseDate : String := ""
  description : String := ""
  tags : List String := []
  newFeatures : List String := []
  improvements : List String := []
  bugFixes : List String := []
  downloadUrl : String := ""
  expectedSha256 : String := ""
  expectedSize : Int := 0
  releasePageUrl : String := ""
  mandatory : Bool := false
  updateState : UpdateState := .idle
  updateCheckRunning : Bool := false
  downloads : List Download := []
  nextId : Nat := 0
  installer : Option (List UInt8) := none
  commits : List (List UInt8) := []
  launches : List Launch := []
  opened : List String := []
  signals : List Signal := []

namespace State

def emit (signal : Signal) (s : State) : State := { s with signals := s.signals ++ [signal] }

def setUpdateState (state : UpdateState) (s : State) : State := { s with updateState := state }

def openUrl (url : String) (s : State) : State := { s with opened := s.opened ++ [url] }

/-- The metadata request; its reply is pending as long as `updateCheckRunning`. -/
def checkForUpdates (s : State) : State := if s.updateCheckRunning then s else { s with updateCheckRunning := true }

end State

structure MetadataReply where
  error : Bool
  status : Int
  document : Option Json

section

variable (build : Build)

def tunnelCoreReleasePage (url : Url) : Bool :=
  url.scheme = "https" && url.host = "github.com" &&
    "/VnextDevelopment/tunnelcore-vpn/releases/tag/".isPrefixOf url.path && url.query = "" && url.fragment = ""

def stringListFromJsonValue (value : Json) : List String := (value.toArray.map Json.toString).filter (· ≠ "")

def releasePageAllowed (version page : String) : Bool :=
  let url := build.url page
  if build.platform.isStoreUpdate then url.scheme = "https" && url.host = build.platform.storeHost
  else tunnelCoreReleasePage url && url.path = "/VnextDevelopment/tunnelcore-vpn/releases/tag/v" ++ version

/-- The checks of the installer's metadata, made only where an installer is downloaded. -/
def installerAllowed (version downloadUrl sha256 : String) (size : Int) : Bool :=
  match build.platform.installerName version with
  | none => true
  | some expectedName =>
    let url := build.url downloadUrl
    url.scheme = "https" && url.host = "github.com" &&
      url.path = "/VnextDevelopment/tunnelcore-vpn/releases/download/v" ++ version ++ "/" ++ expectedName &&
      url.query = "" && url.fragment = "" && build.isSha256 sha256 && 1 ≤ size && size ≤ 850000000

def metadataReceived (data : JsonObject) (s : State) : State :=
  let version := (data.value "updateVersion").toString
  let releasePage := (data.value "releasePageUrl").toString
  let downloadUrl := (data.value "downloadUrl").toString
  let sha256 := build.toLower (data.value "sha256").toString
  let size := (data.value "downloadSize").toInteger
  if !(data.value "updateAvailable").toBool then (s.setUpdateState .idle).emit .updateNotFound
  else if !build.validVersion version || build.compareVersions version build.appVersion ≤ 0 then s.emit .updateNotFound
  else if !releasePageAllowed build version releasePage then s.emit .updateCheckFailed
  else if !installerAllowed build version downloadUrl sha256 size then s.emit .updateCheckFailed
  else
    (State.setUpdateState .idle
      { s with
        version := version
        releaseDate := (data.value "releaseDate").toString
        description := (data.value "updateDescription").toString
        tags := stringListFromJsonValue (data.value "updateTags")
        newFeatures := stringListFromJsonValue (data.value "newFeatures")
        improvements := stringListFromJsonValue (data.value "improvements")
        bugFixes := stringListFromJsonValue (data.value "bugFixes")
        downloadUrl := downloadUrl
        expectedSha256 := sha256
        expectedSize := size
        releasePageUrl := build.urlText releasePage
        mandatory := (data.value "mandatory").toBool }).emit .updateFound

def metadataFinished (reply : MetadataReply) (s : State) : State :=
  let s := { s with updateCheckRunning := false }
  if reply.error || reply.status ≠ 200 then s.emit .updateCheckFailed
  else
    match reply.document with
    | some (.object data) => metadataReceived build data s
    | _ => s.emit .updateCheckFailed

def openStorePage (s : State) : State :=
  let listed (host page : String) : Bool := (build.url page).scheme = "https" && (build.url page).host = host
  match build.platform with
  | .ios | .macosStore =>
    let page := if listed "apps.apple.com" s.releasePageUrl then s.releasePageUrl else build.iosStoreUrlFallback
    if listed "apps.apple.com" page then s.openUrl page else s
  | .androidPlay | .androidApk =>
    s.openUrl (if listed "play.google.com" s.releasePageUrl then s.releasePageUrl
      else s!"https://play.google.com/store/apps/details?id={build.androidPackage}")
  | _ => s

/-- `downloadInstaller`; `opens` is what opening the local file returns. -/
def downloadInstaller (opens : Bool) (s : State) : State :=
  if s.updateState = .downloading then s
  else if build.urlIsEmpty s.downloadUrl || s.expectedSha256.length ≠ 64 || s.expectedSize < 1 then
    s.setUpdateState .downloadError
  else if !opens then s.setUpdateState .downloadError
  else
    { s.setUpdateState .downloading with
      downloads := s.downloads ++ [{ id := s.nextId, url := s.downloadUrl }]
      nextId := s.nextId + 1 }

def startUpdate (opens : Bool) (s : State) : State :=
  if build.platform.isStoreUpdate then openStorePage build s
  else if build.platform.downloads then downloadInstaller build opens s
  else if tunnelCoreReleasePage (build.url s.releasePageUrl) then s.openUrl s.releasePageUrl
  else s.setUpdateState .downloadError

def chunkSize : Nat := 64 * 1024

/-- The `drain` lambda, and whether it has called `abort`. Write number `i` of the event is
complete unless `disk i` says after how many bytes it fails. -/
def drain (expectedSize : Int) (disk : Nat → Option Nat) (i : Nat) (d : Download) : Download × Bool :=
  if d.buffer = [] then (d, false)
  else
    let chunk := d.buffer.take chunkSize
    let rest := d.buffer.drop chunkSize
    let written := d.bytesWritten + chunk.length
    if expectedSize < written then ({ d with buffer := rest, bytesWritten := written }, true)
    else
      match disk i with
      | some k =>
        ({ d with buffer := rest, bytesWritten := written,
                  file := { content := d.file.content ++ chunk.take k, failed := true } }, true)
      | none =>
        drain expectedSize disk (i + 1)
          { d with buffer := rest, bytesWritten := written,
                   file := { d.file with content := d.file.content ++ chunk }, digest := d.digest ++ chunk }
termination_by d.buffer.length
decreasing_by
  have := List.length_pos_iff.mpr ‹¬d.buffer = []›
  simp only [List.length_drop, chunkSize]
  omega

structure DownloadEnd where
  error : Bool
  status : Int
  commits : Bool

/-- The handler of `finished`. The reply has ended, so `abort` in its `drain` does nothing. -/
def downloadFinished (ending : DownloadEnd) (disk : Nat → Option Nat) (d : Download) (s : State) : State :=
  let d := (drain s.expectedSize disk 0 d).1
  let s := { s with downloads := s.downloads.filter (·.id ≠ d.id) }
  let valid := !ending.error && ending.status = 200 && d.bytesWritten = s.expectedSize &&
    build.sha256 d.digest = s.expectedSha256
  if valid && (!d.file.failed && ending.commits) then
    State.setUpdateState .readyToInstall
      { s with installer := some d.file.content, commits := s.commits ++ [d.file.content] }
  else s.setUpdateState .downloadError

/-- The handler of `readyRead` for new bytes; `abort` emits `finished` at once, with an error. -/
def downloadReady (bytes : List UInt8) (disk : Nat → Option Nat) (d : Download) (s : State) : State :=
  let (d, aborted) := drain s.expectedSize disk 0 { d with buffer := d.buffer ++ bytes }
  let s := { s with downloads := s.downloads.map fun e => if e.id = d.id then d else e }
  if aborted then downloadFinished build { error := true, status := 0, commits := true } disk d s else s

def installUpdate (s : State) : State :=
  if build.platform.downloads && s.updateState = .readyToInstall then
    { s with launches := s.launches ++ [⟨s.installer, s.expectedSize, s.expectedSha256⟩] }
  else s

inductive Event
  | checkForUpdates
  | startUpdate (opens : Bool)
  | installUpdate
  | metadataFinished (reply : MetadataReply)
  | downloadReady (id : Nat) (bytes : List UInt8) (disk : Nat → Option Nat)
  | downloadFinished (id : Nat) (ending : DownloadEnd) (disk : Nat → Option Nat)

def State.find (s : State) (id : Nat) (f : Download → State → State) : State :=
  match s.downloads.find? (·.id = id) with
  | some d => f d s
  | none => s

def step (s : State) : Event → State
  | .checkForUpdates => s.checkForUpdates
  | .startUpdate opens => startUpdate build opens s
  | .installUpdate => installUpdate build s
  | .metadataFinished reply => if s.updateCheckRunning then metadataFinished build reply s else s
  | .downloadReady id bytes disk => s.find id (downloadReady build bytes disk)
  | .downloadFinished id ending disk => s.find id (downloadFinished build ending disk)

def run (events : List Event) (s : State) : State := events.foldl (step build) s

def start (installer : Option (List UInt8)) : State := { installer := installer }

end

end TunnelCore.Update
