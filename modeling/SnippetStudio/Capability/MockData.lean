import SnippetStudio.Capability.Fixture

/-!
# Standard fixture data

The user, products, posts and notifications that snippets may show as placeholder content.
-/

namespace SnippetStudio.Catalogue

def mockData : Fixture :=
  .obj false [
    ("user", .obj false [
      ("name", .str "John Doe"),
      ("email", .str "john.doe@example.com"),
      ("avatar", .str "/placeholder.svg?height=40&width=40"),
      ("initials", .str "JD"),
      ("bio", .str "Product designer based in San Francisco. I enjoy creating user-centric, delightful, and human experiences."),
      ("location", .str "San Francisco, CA")]),
    ("products", .arr false [.obj false [
        ("id", .str "prod_1"),
        ("name", .str "Mechanical Keyboard"),
        ("price", .str "$149.99"),
        ("description", .str "Premium mechanical keyboard with RGB lighting")],
      .obj false [
        ("id", .str "prod_2"),
        ("name", .str "Wireless Mouse"),
        ("price", .str "$59.99"),
        ("description", .str "Ergonomic wireless mouse with long battery life")],
      .obj false [
        ("id", .str "prod_3"),
        ("name", .str "Monitor Stand"),
        ("price", .str "$29.99"),
        ("description", .str "Adjustable monitor stand for better ergonomics")]]),
    ("posts", .arr false [.obj false [
        ("id", .int 1),
        ("title", .str "Getting Started with React"),
        ("excerpt", .str "Learn the basics of React and how to build your first component."),
        ("date", .str "2023-05-15"),
        ("author", .str "Jane Smith")],
      .obj false [
        ("id", .int 2),
        ("title", .str "Advanced State Management"),
        ("excerpt", .str "Explore different state management solutions for complex React applications."),
        ("date", .str "2023-06-22"),
        ("author", .str "Mike Johnson")],
      .obj false [
        ("id", .int 3),
        ("title", .str "Building Accessible UIs"),
        ("excerpt", .str "Best practices for creating accessible user interfaces in React."),
        ("date", .str "2023-07-10"),
        ("author", .str "Sarah Williams")]]),
    ("notifications", .arr false [.obj false [
        ("id", .str "notif_1"),
        ("title", .str "New message"),
        ("description", .str "You have a new message from Alex"),
        ("time", .str "2 min ago")],
      .obj false [
        ("id", .str "notif_2"),
        ("title", .str "Payment successful"),
        ("description", .str "Your payment of $49.99 was successful"),
        ("time", .str "1 hour ago")],
      .obj false [
        ("id", .str "notif_3"),
        ("title", .str "Account update"),
        ("description", .str "Your account details have been updated"),
        ("time", .str "Yesterday")]])]

end SnippetStudio.Catalogue
