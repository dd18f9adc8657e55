import ChatGateway.Beta
import ChatGateway.Chat.Completion
import ChatGateway.Chat.Message
import ChatGateway.Chat.Reasoning
import ChatGateway.Chat.Reply
import ChatGateway.Chat.Request
import ChatGateway.CommandLine
import ChatGateway.Console
import ChatGateway.Content
import ChatGateway.Decimal
import ChatGateway.Decision
import ChatGateway.Decoding
import ChatGateway.Endpoint
import ChatGateway.Exchange
import ChatGateway.Fault
import ChatGateway.FilePath
import ChatGateway.FileTree
import ChatGateway.Journal
import ChatGateway.Journal.Entry
import ChatGateway.Json
import ChatGateway.Json.Document
import ChatGateway.Json.Printer
import ChatGateway.Json.Reader
import ChatGateway.Main
import ChatGateway.Messages.Answer
import ChatGateway.Messages.Conversation
import ChatGateway.Messages.Outgoing
import ChatGateway.Messages.Payload
import ChatGateway.Messages.System
import ChatGateway.Provider.Call
import ChatGateway.Provider.Wire
import ChatGateway.Service
import ChatGateway.Settings
import ChatGateway.Settings.Location
import ChatGateway.Startup
import ChatGateway.SystemFault
import ChatGateway.Text
import ChatGateway.Text.Invisible
import ChatGateway.Text.Lossy
import ChatGateway.Text.Quoted
import ChatGateway.Thinking
import ChatGateway.Thinking.Activation
import ChatGateway.Timestamp
import ChatGateway.Toml
import ChatGateway.Toml.Reader
import ChatGateway.Tool
import ChatGateway.Tool.Choice
import ChatGateway.Url
import ChatGateway.Uuid
import ChatGateway.Proofs.Conversation
import ChatGateway.Proofs.Budget
import ChatGateway.Proofs.Outgoing
import ChatGateway.Proofs.Thinking
import ChatGateway.Proofs.Reasoning
import ChatGateway.Proofs.History
import ChatGateway.Proofs.Numerals
import ChatGateway.Proofs.ReadBack
import ChatGateway.Proofs.Echo
import ChatGateway.Proofs.Keys
import ChatGateway.Proofs.Vocabulary
import ChatGateway.Proofs.HeldValues
import ChatGateway.Proofs.Session
import ChatGateway.Proofs.ToolChoices
import ChatGateway.Proofs.Refusal
import ChatGateway.Proofs.Trail
import ChatGateway.Proofs.JournalLines
import ChatGateway.Proofs.JournalRuns
import ChatGateway.Proofs.Betas
import ChatGateway.Proofs.HeldRequests
import ChatGateway.Proofs.SentText
import ChatGateway.Proofs.HeaderValues
import ChatGateway.Proofs.Gate
import ChatGateway.Proofs.Addresses
import ChatGateway.Proofs.Routing
import ChatGateway.Proofs.JournalDamage
import ChatGateway.Proofs.Blocks
import ChatGateway.Proofs.ReasoningEcho
import ChatGateway.Proofs.ExtraKeys
import ChatGateway.Proofs.ProviderFailures
import ChatGateway.Proofs.Stripping
import ChatGateway.Proofs.StripOrder
import ChatGateway.Proofs.ToolBetas
import ChatGateway.Proofs.Promotion
import ChatGateway.Proofs.Lifting
import ChatGateway.Proofs.FieldForms
import ChatGateway.Proofs.BlockForms
import ChatGateway.Proofs.MessageForms
import ChatGateway.Proofs.ChoiceForms
import ChatGateway.Proofs.ToolForms
import ChatGateway.Proofs.Rebuilding
import ChatGateway.Proofs.Uploads
import ChatGateway.Proofs.DroppedParams
import ChatGateway.Proofs.Outlines
import ChatGateway.Proofs.TextParts
import ChatGateway.Proofs.Normalization
import ChatGateway.Proofs.Continuity
import ChatGateway.Proofs.Images
import ChatGateway.Proofs.JournalFailures
import ChatGateway.Proofs.TextCuts
import ChatGateway.Proofs.BetaHeaders
