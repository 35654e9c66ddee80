import Mockup.Failure
import Mockup.Value.Basic

namespace Mockup

/-!
# The network

A network of a demonstration: it answers every request after the same time,
from a table of failures, from a table of responses, or by sending back what
came with the request.
-/

/-- A network with prepared answers. -/
structure Network where
  /-- How long every answer takes, in milliseconds. -/
  latency : Nat
  /-- The responses under their URLs. -/
  responses : Entries Value
  /-- The failures under their URLs; they come first. -/
  failures : Entries Failure := []
  deriving Repr

namespace Network

/-- The response about a user. -/
def userResponse : Value :=
  .map
    [("code", .int 0),
      ("data", .map
        [("id", .string "1001"), ("name", .string "测试用户"),
          ("avatar", .string "https://example.com/avatar.png")])]

/-- An item of the response with a list. -/
def listItem
    (id : Int64)
    (title : String) :
    Value :=
  .map [("id", .int id), ("title", .string title)]

/-- The response with a list. -/
def listResponse : Value :=
  .map
    [("code", .int 0),
      ("data", .map
        [("items", .list
            [listItem 1 "示例数据1", listItem 2 "示例数据2"]),
          ("total", .int 2)])]

/-- The network that is there from the start. -/
def stock : Network where
  latency :=
    500
  responses :=
    [("/api/user/info", userResponse), ("/api/list", listResponse)]

/-- Prepare a response. -/
def respond
    (network : Network)
    (url : String)
    (response : Value) :
    Network :=
  { network with
    responses := Entries.insert network.responses url response }

/-- Prepare a failure. -/
def fail
    (network : Network)
    (url reason : String) :
    Network :=
  { network with
    failures :=
      Entries.insert network.failures url (.requestFailed reason) }

/-- The answer to a request with some data that nothing is prepared for. -/
def echo
    (data : Option Value) :
    Value :=
  .map
    [("code", .int 0), ("message", .string "success"),
      ("data", data.getD .null)]

/-- The answer to a request: a response, or the failure of the request. -/
def answer
    (network : Network)
    (url : String)
    (data : Option Value) :
    Except Failure Value :=
  match Entries.get? network.failures url with
  | some failure =>
      .error failure
  | none =>
      .ok ((Entries.get? network.responses url).getD (echo data))

end Network

end Mockup
