import RemoteShell.Remote
import RemoteShell.Server

set_option autoImplicit false

namespace RemoteShell

inductive Scripted where
  | server
  | reply (r : Reply)
  /-- The user breaks off the wait for a reply. -/
  | interrupt

structure Connection where
  base : Base
  server : Server
  script : List Scripted
  sent : List Request

namespace Connection

def answered (c : Connection) (r : Request) : Connection × Option Reply :=
  let (server, response) := c.server.answer r
  ({ c with server := server }, some (.answered response))

/-- Sending a request. Without a reply the wait for it was broken off. -/
def exchange (c : Connection) (r : Request) : Connection × Option Reply :=
  let noted := { c with sent := c.sent ++ [r], script := c.script.drop 1 }
  match c.script with
  | .reply reply :: _ => (noted, some reply)
  | .interrupt :: _ => (noted, none)
  | _ => noted.answered r

/-- What a reply to a request comes to. A response needs a URL with a scheme. -/
def outcome (path : Text) (r : Request) (reply : Reply) : Except Fault Response :=
  match reply with
  | .answered _ => if r.url.isTyped then reply.accept path else .error (.untypedUrl r.url.shortText)
  | .failed .. => reply.accept path

/-- Making a call, and what its reply comes to. A call whose URL is refused sends nothing. -/
def ask (c : Connection) (call : Call) : Connection × Option (Except Fault Response) :=
  match call.request c.base with
  | .error fault => (c, some (.error fault))
  | .ok request =>
    let (c, reply) := c.exchange request
    (c, reply.map (outcome call.path request))

end Connection

end RemoteShell
