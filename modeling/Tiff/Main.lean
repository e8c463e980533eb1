-- The command line: reads the arguments and the file, and writes the report.

import Tiff.CommandLine.Plan

open Tiff Tiff.CommandLine

/-- Why a file could not be read, in the words of the operating system. -/
def systemMessage : IO.Error → String
  | .noFileOrDirectory .. => Source.noFile
  | .permissionDenied .. => "Permission denied (os error 13)"
  | error => toString error

partial def readAll (stream : IO.FS.Stream) (read : ByteArray := .empty) : IO ByteArray := do
  let chunk ← stream.read 65536
  if chunk.isEmpty then return read else readAll stream (read ++ chunk)

/-- Opens what the settings name. -/
def openSource (settings : Settings) : IO (Except SourceError Source) := do
  if settings.readsInput then
    return .ok (.ofStream { content := ← readAll (← IO.getStdin) })
  else
    let content ← try
        pure (.ok (← IO.FS.readBinFile settings.path))
      catch error => pure (.error (systemMessage error))
    return Source.openFile settings.path content

def main (arguments : List String) : IO UInt32 := do
  let names := quantityVariables.map Prod.snd ++ flagVariables.map Prod.snd
  let values ← names.mapM fun name => return (name, ← IO.getEnv name)
  let outcome ← match Plan.make arguments fun name => (values.lookup name).join with
    | .finish outcome => pure outcome
    | .walk settings => pure (run settings (← openSource settings))
  IO.print outcome.output
  for complaint in outcome.complaint?.toList do
    IO.eprintln s!"error: {complaint}"
  for error in outcome.errors do
    IO.eprintln s!"ERROR tiffwalk: {error}"
  return outcome.exit.toUInt32
