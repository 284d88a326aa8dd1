import MessageQueue.Consumer.Rehearsal
import MessageQueue.Main
import MessageQueue.Proofs.Consumer.Move
import MessageQueue.Proofs.Consumer.FollowUp
import MessageQueue.Proofs.Consumer.Batches
import MessageQueue.Proofs.Writer.Session
import MessageQueue.Proofs.Writer.SingleUse
import MessageQueue.Proofs.Client.Exchanges
import MessageQueue.Proofs.Consumer.Quiescence
import MessageQueue.Proofs.Consumer.Shutdowns
import MessageQueue.Proofs.Text.Percent
import MessageQueue.Proofs.Wire.Form
import MessageQueue.Proofs.Client.Requests
import MessageQueue.Proofs.Markup.Content
import MessageQueue.Proofs.Answer.Inbox
import MessageQueue.Proofs.Answer.Rendering
import MessageQueue.Proofs.Consumer.Parting
import MessageQueue.Proofs.Consumer.Polling
import MessageQueue.Proofs.Consumer.Phases
import MessageQueue.Proofs.Markup.Parts
import MessageQueue.Proofs.Answer.Reading
import MessageQueue.Proofs.Answer.Cut
import MessageQueue.Proofs.Answer.Batch
import MessageQueue.Proofs.Signature.Scheme
import MessageQueue.Proofs.Url.Host
import MessageQueue.Proofs.Client.Signed
import MessageQueue.Proofs.Calendar
import MessageQueue.Proofs.Signature.Binding
import MessageQueue.Proofs.Client.Credentials
import MessageQueue.Proofs.Markup.Division
import MessageQueue.Proofs.Answer.Places
import MessageQueue.Proofs.Answer.Errors
import MessageQueue.Proofs.Answer.Division
import MessageQueue.Proofs.Client.Transience
import MessageQueue.Proofs.Consumer.Connection
import MessageQueue.Proofs.Settings.Precedence
import MessageQueue.Proofs.Attributes
import MessageQueue.Proofs.CommandLine.Reading
import MessageQueue.Proofs.CommandLine.SendArguments
import MessageQueue.Proofs.CommandLine.Sending
import MessageQueue.Proofs.Consumer.Limits
import MessageQueue.Proofs.Consumer.Rehearsal
import MessageQueue.Proofs.Secrets
import MessageQueue.Proofs.Json.Printed
import MessageQueue.Proofs.Settings.Identifiers
import MessageQueue.Proofs.Settings.Records
import MessageQueue.Proofs.Settings.Storage
import MessageQueue.Proofs.Attributes.History
import MessageQueue.Proofs.Attributes.Published
